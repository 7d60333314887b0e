import DeskScript.Proofs.Declaration.Annotation
import DeskScript.Proofs.Grammar.Program

/-!
Declared types are kept and respected. An assignment has the type that is written in it or, if none
is, the type of the previous assignment to the same name in the same scope, and a literal has to
suit the type. Main statement: `types_kept`.
-/

namespace DeskScript

inductive Node.Suits : (type : String) → Node → Prop where
  | int {value : Int64} : Suits "INT" (.integer value)
  | floatOfInteger {value : Int64} : Suits "FLOAT" (.integer value)
  | float {value : Float} : Suits "FLOAT" (.float value)
  | timeOfInteger {value : Int64} : Suits "TIME" (.integer value)
  | timeOfFloat {value : Float} : Suits "TIME" (.float value)
  | time {value : Float} {unit : String} : Suits "TIME" (.time value unit)
  | str {value : String} : Suits "STR" (.string value)
  | bool {value : Bool} : Suits "BOOL" (.boolean value)

theorem Node.suits_of_fits {type : String} {value : Node} (literal : value.isLiteral = true)
    (fits : Parser.fits type value = true) : value.Suits type := by
  cases value with
  | integer | float | time | string | boolean =>
    simp only [Parser.fits, List.contains_cons, List.contains_nil, Bool.or_eq_true, Bool.or_false,
      beq_iff_eq] at fits
    rcases fits with rfl | rfl | rfl <;> constructor
  | _ => simp [isLiteral] at literal

namespace Declaration

def isAssigned : Declaration → Bool
  | .assigned .. => true
  | _ => false

/--
The type of the previous assignment to a name in the same scope, given what was declared before,
latest first. Functions that have ended are skipped, of which so many have not been left again on
the way back, and nothing is taken from outside of the function around.
-/
def previousType (name : String) : (skipped : Nat) → List Declaration → Option String
  | _, [] => none
  | skipped, .ended :: before => previousType name (skipped + 1) before
  | 0, .defined .. :: _ => none
  | skipped + 1, .defined .. :: before => previousType name skipped before
  | 0, .assigned target _ type :: before =>
    if target = name then type else previousType name 0 before
  | skipped + 1, .assigned .. :: before => previousType name (skipped + 1) before

def Allowed (type : Option String) (value : Node) : Prop :=
  ∀ stated, type = some stated →
    stated ∈ typeNames ∧ (value.isLiteral = true → value.Suits stated)

/--
After what was declared before, latest first, each further assignment has the type that is noted
for it or else the previous one, and its value is allowed under that type.
-/
inductive Kept : (past : List Declaration) → List (Option String) → List Declaration → Prop where
  | nil {past : List Declaration} : Kept past [] []
  | assigned {past rest : List Declaration} {notes : List (Option String)} {target : String}
      {value : Node} {note type : Option String} :
    type = note.or (previousType target 0 past) → Allowed type value →
    Kept (.assigned target value type :: past) notes rest →
    Kept past (note :: notes) (.assigned target value type :: rest)
  | defined {past rest : List Declaration} {notes : List (Option String)} {name : String}
      {parameters : List String} :
    Kept (.defined name parameters :: past) notes rest →
    Kept past notes (.defined name parameters :: rest)
  | ended {past rest : List Declaration} {notes : List (Option String)} :
    Kept (.ended :: past) notes rest → Kept past notes (.ended :: rest)

variable {past declared more : List Declaration} {notes notes' : List (Option String)}

theorem Kept.append (first : Kept past notes declared)
    (second : Kept (declared.reverse ++ past) notes' more) :
    Kept past (notes ++ notes') (declared ++ more) := by
  induction first with
  | nil => exact second
  | assigned type allowed _ ih => exact .assigned type allowed (ih (by simpa using second))
  | defined _ ih => exact .defined (ih (by simpa using second))
  | ended _ ih => exact .ended (ih (by simpa using second))

theorem Kept.length (kept : Kept past notes declared) :
    notes.length = declared.countP isAssigned := by
  induction kept with
  | nil => rfl
  | assigned _ _ _ ih => simp [List.countP_cons, ih, isAssigned]
  | defined _ ih | ended _ ih => simp [ih, isAssigned]

theorem Kept.of_split {before after : List Declaration} {target : String} {value : Node}
    {type : Option String}
    (kept : Kept past notes (before ++ .assigned target value type :: after)) :
    ∃ note, notes[before.countP isAssigned]? = some note ∧
      type = note.or (previousType target 0 (before.reverse ++ past)) ∧ Allowed type value := by
  induction before generalizing past notes with
  | nil =>
    cases kept with
    | assigned same allowed _ => exact ⟨_, rfl, same, allowed⟩
  | cons first before ih =>
    cases kept with
    | assigned _ _ rest =>
      obtain ⟨note, found, same, allowed⟩ := ih rest
      refine ⟨note, ?_, by simpa using same, allowed⟩
      simpa [List.countP_cons, isAssigned] using found
    | defined rest | ended rest =>
      obtain ⟨note, found, same, allowed⟩ := ih rest
      exact ⟨note, by simpa [isAssigned] using found, by simpa using same, allowed⟩

def Enclosed (declared : List Declaration) : Prop :=
  ∀ name skipped past,
    previousType name (skipped + 1) (declared.reverse ++ past) =
      previousType name (skipped + 1) past

theorem Enclosed.append (first : Enclosed declared) (second : Enclosed more) :
    Enclosed (declared ++ more) := by
  intro name skipped past
  rw [List.reverse_append, List.append_assoc, second, first]

theorem previousType_function (enclosed : Enclosed declared) (name function : String)
    (parameters : List String) (skipped : Nat) (past : List Declaration) :
    previousType name skipped
        ((.defined function parameters :: (declared ++ [.ended])).reverse ++ past) =
      previousType name skipped past := by
  have shape : (.defined function parameters :: (declared ++ [.ended])).reverse ++ past =
      .ended :: (declared.reverse ++ .defined function parameters :: past) := by simp
  rw [shape, previousType, enclosed, previousType]

structure Agrees (earlier : List (String × Option String)) (past : List Declaration) : Prop where
  previous : ∀ name, previousType name 0 past = Grammar.latestType earlier name
  known : ∀ name stated, Grammar.latestType earlier name = some stated → stated ∈ typeNames

variable {earlier made made' : List (String × Option String)}

theorem Agrees.function (agrees : Agrees earlier past) (enclosed : Enclosed declared)
    (name : String) (parameters : List String) :
    Agrees earlier ((.defined name parameters :: (declared ++ [.ended])).reverse ++ past) :=
  ⟨fun other => (previousType_function enclosed other name parameters 0 past).trans
    (agrees.previous other), agrees.known⟩

theorem agrees_inside (name : String) (parameters : List String) (past : List Declaration) :
    Agrees [] (.defined name parameters :: past) :=
  ⟨fun _ => rfl, fun _ _ none => by cases none⟩

theorem Agrees.assigned (agrees : Agrees earlier past) {target : String} {value : Node}
    {type : Option String} (allowed : Allowed type value) :
    Agrees (earlier ++ [(target, type)]) (.assigned target value type :: past) := by
  constructor
  · intro name
    rw [previousType, Parser.latestType_concat, agrees.previous]
    simp only [eq_comm]
  · intro name stated found
    rw [Parser.latestType_concat] at found
    split at found
    · exact (allowed stated found).1
    · exact agrees.known name stated found

end Declaration

namespace Grammar

open Declaration

variable {tokens more : List Token} {declared declared' : List Declaration}
variable {earlier made made' : List (String × Option String)}

/--
After earlier assignments of the same scope, these tokens stand for these declarations, and the
assignments among them outside of functions are the ones that are made.
-/
def Typed (earlier : List (String × Option String)) (tokens : List Token)
    (declared : List Declaration) (made : List (String × Option String)) : Prop :=
  ∃ notes, Notes tokens notes ∧ Enclosed declared ∧
    ∀ past, Agrees earlier past →
      Kept past notes declared ∧ Agrees (earlier ++ made) (declared.reverse ++ past)

namespace Typed

theorem quiet (quiet : ∀ token ∈ tokens, token.Quiet) : Typed earlier tokens [] [] :=
  ⟨[], notes_quiet quiet, fun _ _ _ => rfl, fun past agrees =>
    ⟨.nil, by rwa [List.append_nil]⟩⟩

theorem append (first : Typed earlier tokens declared made)
    (second : Typed (earlier ++ made) more declared' made') :
    Typed earlier (tokens ++ more) (declared ++ declared') (made ++ made') := by
  obtain ⟨notes, written, enclosed, keeps⟩ := first
  obtain ⟨notes', written', enclosed', keeps'⟩ := second
  refine ⟨notes ++ notes', written.append written', enclosed.append enclosed', ?_⟩
  intro past agrees
  obtain ⟨kept, between⟩ := keeps past agrees
  obtain ⟨kept', after⟩ := keeps' _ between
  refine ⟨kept.append kept', ?_⟩
  rw [List.reverse_append, List.append_assoc, ← List.append_assoc earlier]
  exact after

theorem after (quiet : ∀ token ∈ tokens, token.Quiet)
    (typed : Typed earlier more declared made) : Typed earlier (tokens ++ more) declared made :=
  (Typed.quiet quiet).append (by rwa [List.append_nil])

theorem before (typed : Typed earlier tokens declared made)
    (quiet : ∀ token ∈ more, token.Quiet) : Typed earlier (tokens ++ more) declared made := by
  have both := typed.append (Typed.quiet quiet)
  rwa [List.append_nil, List.append_nil] at both

theorem one {token : Token} (quiet : token.Quiet) : Typed earlier [token] [] [] :=
  .quiet (List.forall_mem_singleton.2 quiet)

theorem cons {token : Token} (quiet : token.Quiet) (typed : Typed earlier more declared made) :
    Typed earlier (token :: more) declared made :=
  typed.after (List.forall_mem_singleton.2 quiet)

theorem concat {token : Token} (typed : Typed earlier tokens declared made) (quiet : token.Quiet) :
    Typed earlier (tokens ++ [token]) declared made :=
  typed.before (List.forall_mem_singleton.2 quiet)

theorem function (inside : Typed [] tokens declared made) (name : String)
    (parameters : List String) :
    Typed earlier tokens (.defined name parameters :: (declared ++ [.ended])) [] := by
  obtain ⟨notes, written, enclosed, keeps⟩ := inside
  refine ⟨notes, written, fun other skipped past => ?_, fun past agrees => ⟨.defined ?_, ?_⟩⟩
  · exact previousType_function enclosed other name parameters (skipped + 1) past
  · have kept := (keeps _ (agrees_inside name parameters past)).1
    simpa using kept.append (.ended .nil)
  · rw [List.append_nil]
    exact agrees.function enclosed name parameters

end Typed

theorem Annotation.known {type : Option String} {stated : String}
    (hint : Annotation tokens type) (same : type = some stated) : stated ∈ typeNames := by
  cases hint with
  | missing => cases same
  | stated _ _ known =>
    obtain rfl := Option.some.inj same
    exact known

theorem Typed.assignment {word name equals follow : Token} {before after : List Token}
    {value : Node} {early late type : Option String} (set : word.isKeyword "SET" = true)
    (identifier : name.kind = .identifier) (first : Annotation before early)
    (sign : equals.isOperator "=" = true)
    (derives : Term.Derives tokens follow (.expression 1 value))
    (second : Annotation after late) (once : early = none ∨ late = none)
    (inherits : type = (late.or early).or (latestType earlier name.text))
    (fits : ∀ expected, type = some expected → Parser.fits expected value = true) :
    Typed earlier (word :: name :: (before ++ equals :: (tokens ++ after)))
      [.assigned name.text value type] [(name.text, type)] := by
  refine ⟨[late.or early], ?_, fun _ _ _ => rfl, fun past agrees => ?_⟩
  · exact notes_assignment set (Token.quiet_of_kind identifier (by decide)) first
      (Token.quiet_of_operator sign (by decide)) derives.quiet second once
  · have allowed : Allowed type value := by
      intro stated same
      refine ⟨?_, fun literal => Node.suits_of_fits literal (fits stated same)⟩
      rw [inherits, Option.or_assoc, Option.or_eq_some_iff, Option.or_eq_some_iff] at same
      rcases same with late | ⟨-, early | ⟨-, inherited⟩⟩
      · exact second.known late
      · exact first.known early
      · exact agrees.known name.text stated inherited
    refine ⟨.assigned ?_ allowed .nil, agrees.assigned allowed⟩
    rw [agrees.previous, inherits]

theorem Parameters.quiet {names : List String} (parameters : Parameters tokens names) :
    ∀ token ∈ tokens, token.Quiet := by
  induction parameters with
  | one name => exact List.forall_mem_singleton.2 (Token.quiet_of_kind name (by decide))
  | more name comma _ ih =>
    exact List.forall_mem_cons.2 ⟨Token.quiet_of_kind name (by decide),
      List.forall_mem_cons.2 ⟨Token.quiet_of_operator comma (by decide), ih⟩⟩

theorem Typed.definition {word name opening closing : Token} {names : List String}
    (defun : word.isKeyword "DEFUN" = true) (identifier : name.kind = .identifier)
    (opens : opening.isOperator "(" = true)
    (given : tokens = [] ∧ names = [] ∨ Parameters tokens names)
    (closes : closing.isOperator ")" = true) (inside : Typed [] more declared made) :
    Typed earlier (word :: name :: opening :: (tokens ++ closing :: more))
      (.defined name.text names :: (declared ++ [.ended])) [] := by
  have quiet : ∀ token ∈ tokens, token.Quiet := by
    rcases given with ⟨rfl, -⟩ | given
    · exact List.forall_mem_nil _
    · exact given.quiet
  refine .cons (Token.quiet_of_keyword defun (by decide)) ?_
  refine .cons (Token.quiet_of_kind identifier (by decide)) ?_
  refine .cons (Token.quiet_of_operator opens (by decide)) (.after quiet ?_)
  exact .cons (Token.quiet_of_operator closes (by decide)) (inside.function name.text names)

theorem Then.quiet (words : Then tokens) : ∀ token ∈ tokens, token.Quiet := by
  cases words with
  | missing => exact List.forall_mem_nil _
  | stated word => exact List.forall_mem_singleton.2 (Token.quiet_of_keyword word (by decide))

theorem ElseIf.quiet (words : ElseIf tokens) : ∀ token ∈ tokens, token.Quiet := by
  cases words with
  | one word => exact List.forall_mem_singleton.2 (Token.quiet_of_keyword word (by decide))
  | two first second =>
    simp [Token.quiet_of_keyword first (by decide), Token.quiet_of_keyword second (by decide)]

theorem Key.quiet {token : Token} {key : String} (named : Key token key) : token.Quiet := by
  cases named with
  | named category => exact Token.quiet_of_category category (by decide)
  | single kind =>
    rcases kind with kind | kind <;> exact Token.quiet_of_kind kind (by decide)
  | quoted kind => exact Token.quiet_of_kind kind (by decide)

theorem quiet_of_mem {token : Token} {words : List String} (kind : token.kind = .keyword)
    (mem : Text.upper token.text ∈ words) (apart : "SET" ∉ words) : token.Quiet :=
  Token.quiet_of_word kind rfl fun same => apart (same ▸ mem)

def Phrase.Apart : Phrase → Prop
  | .closedBody closer _ => Text.upper closer ≠ "SET"
  | _ => True

def Phrase.declarations : Phrase → List Declaration
  | .statement node | .simple node => node.declarations true
  | .statements nodes | .body _ nodes | .closedBody _ nodes => Node.declarationsOf true nodes
  | .branch _ condition nodes => condition.declarations true ++ Node.declarationsOf true nodes
  | .elseIfs _ branches => branches.flatMap fun branch =>
    branch.1.declarations true ++ Node.declarationsOf true branch.2
  | .elseBranch _ last => Node.declarationsOfBody true last

def Phrase.assignments : Phrase → List (String × Option String)
  | .statement node | .simple node => node.assignments
  | .statements nodes | .body _ nodes | .closedBody _ nodes => Node.assignmentsOf nodes
  | .branch _ _ nodes => Node.assignmentsOf nodes
  | .elseIfs _ branches => Node.assignmentsOfAll (branches.map (·.2))
  | .elseBranch _ last => Node.assignmentsOfOption last

theorem Typed.conditional {first further last : List Token} {condition : Node} {nodes : List Node}
    {branches : List (Node × List Node)} {elseBody : Option (List Node)} {a b c : Bool}
    (hfirst : Typed earlier first (Phrase.branch a condition nodes).declarations
      (Node.assignmentsOf nodes))
    (hfurther : Typed (earlier ++ Node.assignmentsOf nodes) further
      (Phrase.elseIfs b branches).declarations (Node.assignmentsOfAll (branches.map (·.2))))
    (hlast : Typed (earlier ++ Node.assignmentsOf nodes ++
      Node.assignmentsOfAll (branches.map (·.2))) last
      (Phrase.elseBranch c elseBody).declarations (Node.assignmentsOfOption elseBody)) :
    Typed earlier (first ++ (further ++ last))
      ((Node.ifStatement condition nodes (branches.map (·.1)) (branches.map (·.2))
        elseBody).declarations true)
      (Node.ifStatement condition nodes (branches.map (·.1)) (branches.map (·.2))
        elseBody).assignments := by
  have whole := hfirst.append (hfurther.append hlast)
  rw [Node.declarations, Node.inTurn_declarations]
  rwa [Phrase.declarations, List.append_assoc] at whole

theorem Phrase.Derives.typed {site : Site} {follow : Token} {phrase : Phrase}
    (derives : Phrase.Derives site tokens follow phrase) (apart : phrase.Apart) :
    Typed site.earlier tokens phrase.declarations phrase.assignments := by
  -- only assignments and functions declare anything; whatever stands around them is quiet
  induction derives with
  | empty semicolon => exact .one (Token.quiet_of_operator semicolon (by decide))
  | ended _ semicolon ih =>
    exact (ih trivial).concat (Token.quiet_of_operator semicolon (by decide))
  | unended _ _ ih => exact ih trivial
  | pass word => exact .one (Token.quiet_of_keyword word (by decide))
  | assignment set identifier first sign value second once inherits fits =>
    rw [Phrase.declarations, Node.declarations, value.plain true]
    exact .assignment set identifier first sign value second once inherits fits
  | function defun identifier opens given _ closes _ ih =>
    have apart : Text.upper "ENDDEFUN" ≠ "SET" := by decide
    exact .definition defun identifier opens given closes (ih apart)
  | print kind word value =>
    rw [Phrase.declarations, Node.declarations, value.plain true]
    exact .cons (quiet_of_mem kind word (by decide)) (.quiet value.quiet)
  | wait word value =>
    rw [Phrase.declarations, Node.declarations, value.plain true]
    exact .cons (Token.quiet_of_keyword word (by decide)) (.quiet value.quiet)
  | move word mouse target x comma y =>
    rw [Phrase.declarations, Node.declarations, x.plain true, y.plain true]
    refine .quiet ?_
    simp only [List.forall_mem_cons, List.forall_mem_append]
    exact ⟨Token.quiet_of_keyword word (by decide), Token.quiet_of_keyword mouse (by decide),
      Token.quiet_of_keyword target (by decide), x.quiet,
      Token.quiet_of_operator comma (by decide), y.quiet⟩
  | moveEnclosed word mouse target opening x comma y closing =>
    rw [Phrase.declarations, Node.declarations, x.plain true, y.plain true]
    refine .quiet ?_
    simp only [List.forall_mem_cons, List.forall_mem_append]
    exact ⟨Token.quiet_of_keyword word (by decide), Token.quiet_of_keyword mouse (by decide),
      Token.quiet_of_keyword target (by decide), Token.quiet_of_operator opening (by decide),
      x.quiet, Token.quiet_of_operator comma (by decide), y.quiet,
      Token.quiet_of_operator closing (by decide), List.forall_mem_nil _⟩
  | key kind word sort key =>
    exact .cons (quiet_of_mem kind word (by decide))
      (.cons (Token.quiet_of_keyword sort (by decide)) (.one key.quiet))
  | button kind word sort category =>
    exact .cons (quiet_of_mem kind word (by decide))
      (.cons (Token.quiet_of_keyword sort (by decide))
        (.one (Token.quiet_of_category category (by decide))))
  | whileLoop word condition _ ih =>
    rw [Phrase.declarations, Node.declarations, condition.plain true]
    have apart : Text.upper "ENDWHILE" ≠ "SET" := by decide
    exact .cons (Token.quiet_of_keyword word (by decide)) (.after condition.quiet (ih apart))
  | repeatLoop word count times _ ih =>
    rw [Phrase.declarations, Node.declarations, count.plain true]
    have apart : Text.upper "ENDREPEAT" ≠ "SET" := by decide
    exact .cons (Token.quiet_of_keyword word (by decide))
      (.after count.quiet (.cons (Token.quiet_of_keyword times (by decide)) (ih apart)))
  | ifBraced word _ _ _ first further last =>
    exact .cons (Token.quiet_of_keyword word (by decide))
      (.conditional (first trivial) (further trivial) (last trivial))
  | ifWorded word _ _ _ _ closing first further last =>
    have inside := Typed.conditional (first trivial) (further trivial) (last trivial)
    have ended := inside.concat (Token.quiet_of_keyword closing (by decide))
    simpa [Phrase.declarations, Phrase.assignments] using
      ended.cons (Token.quiet_of_keyword word (by decide))
  | @control _ _ _ control word =>
    have apart : Text.upper control.word ≠ "SET" := by cases control <;> decide
    exact .one (Token.quiet_of_keyword word apart)
  | @controlValue _ _ _ control _ _ word _ _ _ value =>
    have apart : Text.upper control.word ≠ "SET" := by cases control <;> decide
    rw [Phrase.declarations, Node.declarations, Node.declarationsOfOption, value.plain true]
    exact .cons (Token.quiet_of_keyword word apart) (.quiet value.quiet)
  | updateBefore step name =>
    exact .cons (Token.quiet_of_step step) (.one (Token.quiet_of_kind name (by decide)))
  | updateAfter name step =>
    exact .cons (Token.quiet_of_kind name (by decide)) (.one (Token.quiet_of_step step))
  | call call =>
    rw [Phrase.declarations, call.plain true, Phrase.assignments, Parser.call_assignments call]
    exact .quiet call.quiet
  | nil => exact .quiet (List.forall_mem_nil _)
  | cons _ _ first rest => exact (first trivial).append (rest trivial)
  | braced opening _ closing ih =>
    exact .cons (Token.quiet_of_operator opening (by decide))
      ((ih trivial).concat (Token.quiet_of_operator closing (by decide)))
  | unbraced _ ih => exact ih trivial
  | closedBraced _ ih => exact ih trivial
  | closedWorded _ closing ih => exact (ih trivial).concat (Token.quiet_of_keyword closing apart)
  | branch condition words _ ih =>
    rw [Phrase.declarations, condition.plain true]
    exact .after condition.quiet (.after words.quiet (ih trivial))
  | noElseIf => exact .quiet (List.forall_mem_nil _)
  | elseIf words _ _ first rest =>
    exact .after words.quiet ((first trivial).append (rest trivial))
  | noElse => exact .quiet (List.forall_mem_nil _)
  | elseBranch word _ _ ih => exact .cons (Token.quiet_of_keyword word (by decide)) (ih trivial)

end Grammar

namespace Parser

open Grammar Declaration

variable {options : Options} {tokens : List Token} {ast : Node}

theorem kept_of_accepted (accepted : (parse options tokens).result = .ok ast) :
    Kept [] (writtenTypes (tokens.takeWhile (!·.isEof))) (ast.declarations true) := by
  obtain ⟨nodes, ending, rfl, derives⟩ := derives_of_accepted accepted
  obtain ⟨notes, written, -, keeps⟩ := derives.typed trivial
  have same := (written [] rfl).2
  rw [List.append_nil, writtenTypes, List.append_nil] at same
  rw [same]
  exact (keeps [] ⟨fun _ => rfl, fun _ _ none => by cases none⟩).1

/--
In the tree of accepted tokens there is an assignment for each that is written. Wherever it stands,
its type is the one written in it or else that of the previous assignment to the same name in the
same scope, so that no type is lost once it is declared. A type is one of the language, and a
literal that is stored under it suits it.
-/
theorem types_kept (options : Options) (tokens : List Token) (ast : Node)
    (accepted : (parse options tokens).result = .ok ast) :
    (writtenTypes (tokens.takeWhile (!·.isEof))).length =
        (ast.declarations true).countP isAssigned ∧
      ∀ before target value type after,
        ast.declarations true = before ++ .assigned target value type :: after →
          ∃ written, (writtenTypes (tokens.takeWhile (!·.isEof)))[before.countP isAssigned]? =
              some written ∧
            type = written.or (previousType target 0 before.reverse) ∧
            ((previousType target 0 before.reverse).isSome → type.isSome) ∧
            ∀ stated, type = some stated →
              stated ∈ ["INT", "FLOAT", "STR", "TIME", "BOOL", "POINT"] ∧
                (value.isLiteral = true → value.Suits stated) := by
  have kept := kept_of_accepted accepted
  refine ⟨kept.length, fun before target value type after split => ?_⟩
  rw [split] at kept
  obtain ⟨written, found, same, allowed⟩ := kept.of_split
  rw [List.append_nil] at same
  refine ⟨written, found, same, fun declared => ?_, allowed⟩
  rw [same, Option.isSome_or, declared, Bool.or_true]

theorem types_kept_after_function :
    (∃ written, (writtenTypes
        [⟨.keyword, some "SET", 1⟩, ⟨.identifier, some "x", 1⟩, ⟨.operator, some "=", 1⟩,
          ⟨.integer, some "1", 1⟩, ⟨.operator, some ":", 1⟩, ⟨.identifier, some "Float", 1⟩,
          ⟨.keyword, some "DEFUN", 2⟩, ⟨.identifier, some "f", 2⟩, ⟨.operator, some "(", 2⟩,
          ⟨.operator, some ")", 2⟩, ⟨.operator, some "\x7b", 2⟩, ⟨.keyword, some "SET", 2⟩,
          ⟨.identifier, some "x", 2⟩, ⟨.operator, some "=", 2⟩, ⟨.string, some "a", 2⟩,
          ⟨.operator, some "\x7d", 2⟩, ⟨.keyword, some "SET", 3⟩, ⟨.identifier, some "x", 3⟩,
          ⟨.operator, some "=", 3⟩, ⟨.integer, some "2", 3⟩])[2]? = some written ∧
        some "FLOAT" = written.or (previousType "x" 0 [.ended, .assigned "x" (.string "a") none,
          .defined "f" [], .assigned "x" (.integer 1) (some "FLOAT")])) ∧
      Node.Suits "FLOAT" (.integer 2) := by
  have kept := types_kept .none
    [⟨.keyword, some "SET", 1⟩, ⟨.identifier, some "x", 1⟩, ⟨.operator, some "=", 1⟩,
      ⟨.integer, some "1", 1⟩, ⟨.operator, some ":", 1⟩, ⟨.identifier, some "Float", 1⟩,
      ⟨.keyword, some "DEFUN", 2⟩, ⟨.identifier, some "f", 2⟩, ⟨.operator, some "(", 2⟩,
      ⟨.operator, some ")", 2⟩, ⟨.operator, some "\x7b", 2⟩, ⟨.keyword, some "SET", 2⟩,
      ⟨.identifier, some "x", 2⟩, ⟨.operator, some "=", 2⟩, ⟨.string, some "a", 2⟩,
      ⟨.operator, some "\x7d", 2⟩, ⟨.keyword, some "SET", 3⟩, ⟨.identifier, some "x", 3⟩,
      ⟨.operator, some "=", 3⟩, ⟨.integer, some "2", 3⟩]
    (.program [.assignment "x" (.integer 1) (some "FLOAT"),
      .functionDefinition "f" [] [.assignment "x" (.string "a") none],
      .assignment "x" (.integer 2) (some "FLOAT")]) rfl
  obtain ⟨written, found, same, -, allowed⟩ := kept.2
    [.assigned "x" (.integer 1) (some "FLOAT"), .defined "f" [],
      .assigned "x" (.string "a") none, .ended] "x" (.integer 2) (some "FLOAT") [] rfl
  exact ⟨⟨written, found, same⟩, (allowed "FLOAT" rfl).2 rfl⟩

end Parser

end DeskScript
