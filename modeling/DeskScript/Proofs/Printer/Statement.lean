import DeskScript.Proofs.Grammar.Program
import DeskScript.Proofs.Printer.Expression

/-!
Statements that are written are read back. The first token of a statement tells it from everything
that can close a body, and a statement on a line of its own takes nothing from the line before.
-/

namespace DeskScript.Printer

open DeskScript.Grammar DeskScript.Parser

variable {settings : Settings} {count line last : Nat} {s : State} {node : Node} {site : Site}
variable {inner sub : Parser Node} {rest : List Token} {K : Tracker → Prop} {Q : State → Prop}
variable {layout : Layout}

def StatementReadsBack (settings : Settings) (count : Nat) : Prop :=
  ∀ site layout line last node rest s, levels node ≤ count → isStatement site node = true →
    At settings count (statement layout line node ++ sign last ";" :: rest) (Recorded site) s →
    Gives (Parser.statement settings count) s node
      (At settings count rest (Recorded (site.after node.assignments)))

theorem precedence_of_other {text : String} (notOr : Text.sameWord text "OR" = false)
    (notAnd : Text.sameWord text "AND" = false) (line : Nat) :
    (word line text).precedence? = none := by
  dsimp only [Token.precedence?, word]
  rw [if_neg (by rw [Bool.not_eq_true]; exact notOr),
    if_neg (by rw [Bool.not_eq_true]; exact notAnd)]

def starters : List String :=
  ["DEFUN", "SET", "PRINT", "PRINTLN", "WAIT", "MOVE", "HOLD", "RELEASE", "PRESS", "PASS",
    "WHILE", "REPEAT", "IF", "BREAK", "CONTINUE", "RETURN", "YIELD"]

inductive Starts (line : Nat) : Token → Prop where
  | word {text : String} : text ∈ starters → Starts line (word line text)
  | name (text : String) : Starts line (name line text)
  | step {operation : String} : steps.contains operation = true → Starts line (sign line operation)

namespace Starts

variable {token : Token}

theorem line_eq (h : Starts line token) : token.line = line := by
  cases h <;> rfl

theorem not_eof (h : Starts line token) : token.isEof = false := by
  cases h <;> rfl

theorem not_operator (h : Starts line token) {text : String} (other : text ∉ steps) :
    token.isOperator text = false := by
  cases h with
  | word | name => rfl
  | @step operation known =>
    have ne : operation ≠ text := by
      rintro rfl
      exact other (by simpa using known)
    simpa [Token.isOperator, sign, Token.text] using ne

theorem not_keyword (h : Starts line token) {text : String}
    (other : ∀ starter ∈ starters, Text.sameWord starter text = false) :
    token.isKeyword text = false := by
  cases h with
  | word mem => exact other _ mem
  | name | step => rfl

theorem precedence_none (h : Starts line token) : token.precedence? = none := by
  cases h with
  | @word text mem =>
    have notOr : (Printer.word line text).isKeyword "OR" = false :=
      (by decide : ∀ starter ∈ starters, Text.sameWord starter "OR" = false) _ mem
    have notAnd : (Printer.word line text).isKeyword "AND" = false :=
      (by decide : ∀ starter ∈ starters, Text.sameWord starter "AND" = false) _ mem
    exact precedence_of_other notOr notAnd line
  | name => rfl
  | @step operation known =>
    have cases : operation = "++" ∨ operation = "--" := by simpa [steps] using known
    rcases cases with rfl | rfl <;> rfl

theorem ends (h : Starts line token) {earlier : Nat} (ne : line ≠ earlier) :
    Ends earlier token := by
  refine ⟨⟨h.not_operator (by decide), ?_⟩, h.precedence_none⟩
  rw [h.line_eq, beq_false_of_ne ne, Bool.and_false]

end Starts

theorem statement_cons (legal : isStatement site node = true) (layout : Layout) (line : Nat) :
    ∃ token tokens, statement layout line node = token :: tokens ∧ Starts line token := by
  cases node with
  | functionDefinition | assignment | waitStatement | moveMouse | buttonOperation | emptyStatement
  | whileLoop | repeatLoop | ifStatement => exact ⟨_, _, rfl, .word (by decide)⟩
  | printStatement form value =>
    rw [isStatement, Bool.and_eq_true] at legal
    have mem : form ∈ printWords := by simpa using legal.1
    refine ⟨_, _, rfl, .word ?_⟩
    exact (by decide : ∀ text ∈ printWords, text ∈ starters) _ mem
  | keyOperation operation key =>
    have mem : operation ∈ keyWords := by simpa [isStatement] using legal
    refine ⟨_, _, rfl, .word ?_⟩
    exact (by decide : ∀ text ∈ keyWords, text ∈ starters) _ mem
  | functionCall text nodes => exact ⟨_, _, expression_call text nodes, .name text⟩
  | controlStatement control value =>
    have mem : control.word ∈ starters := by cases control <;> decide
    cases value <;> exact ⟨_, _, rfl, .word mem⟩
  | update text operation before =>
    cases before with
    | true => exact ⟨_, _, rfl, .step legal⟩
    | false => exact ⟨_, _, rfl, .name text⟩
  | _ => cases legal

theorem gives_change {L : Tracker → Prop} {tokens : List Token} (change : Tracker.Change)
    (h : At settings count tokens K s) (keeps : ∀ tracker, K tracker → L (change.apply tracker)) :
    Gives (Parser.change change) s () (At settings count tokens L) :=
  ⟨_, run_change change s, h.remaining, h.room, h.few, keeps _ h.known⟩

theorem typeNames_upper : ∀ type ∈ typeNames, Text.upper type = type := by
  decide

theorem gives_typeTokens {type : Option String}
    (known : ∀ stated, type = some stated → stated ∈ typeNames)
    (h : At settings count (typeTokens line type ++ sign line "=" :: rest) K s) :
    Gives annotation? s type (At settings count (sign line "=" :: rest) K) := by
  cases type with
  | none =>
    refine (gives_acceptOperator_false h rfl).bind fun t ht => ?_
    exact .pure ht
  | some stated =>
    have mem := known stated rfl
    refine (gives_acceptOperator h rfl).bind fun t ht => ?_
    have hint : Gives typeHint t stated (At settings count (sign line "=" :: rest) K) := by
      refine (gives_current ht).bind fun u hu => ?_
      rw [if_pos (.inl rfl)]
      refine (gives_advance hu rfl).bind fun v hv => ?_
      have upper : Text.upper (name line stated).text = stated := typeNames_upper stated mem
      dsimp only
      rw [upper, if_pos (by simpa using mem)]
      exact .pure hv
    exact hint.bind fun u hu => .pure hu

theorem gives_declare {target : String} {value : Node} {type : Option String}
    (fits : ∀ stated, type = some stated → Parser.fits stated value = true)
    (h : At settings count rest (Recorded site) s) :
    Gives (declare target value type line) s (.assignment target value type)
      (At settings count rest (Recorded (site.after [(target, type)]))) := by
  have passes : type.filter (fun expected => !Parser.fits expected value) = none := by
    rw [Option.filter_eq_none_iff]
    intro stated mem
    rw [fits stated mem]
    decide
  unfold declare
  rw [passes]
  refine (gives_note _ h).bind fun t ht => ?_
  refine (gives_change (.declareVariable target type) ht fun _ recorded =>
    recorded.declareVariable target type).bind fun u hu => ?_
  exact .pure hu

theorem ends_semicolon (line last : Nat) : Ends line (sign last ";") :=
  ⟨⟨rfl, rfl⟩, rfl⟩

theorem of_suits {target : String} {value : Node} {type : Option String}
    (suited : suits site target value type = true) :
    (∀ stated, type = some stated → stated ∈ typeNames ∧ Parser.fits stated value = true) ∧
      type.or (latestType site.earlier target) = type := by
  cases type with
  | none => exact ⟨(fun _ same => nomatch same), by simpa [suits] using suited⟩
  | some given =>
    rw [suits, Bool.and_eq_true] at suited
    refine ⟨fun stated same => ?_, rfl⟩
    cases same
    exact ⟨by simpa using suited.1, suited.2⟩

theorem gives_assignment (readsBack : ReadsBack settings count) {target : String} {value : Node}
    {type : Option String} (fits : levels value ≤ count) (legal : isExpression value = true)
    (suited : suits site target value type = true)
    (h : At settings count (word line "SET" :: name line target ::
      (typeTokens line type ++ sign line "=" :: (expression line value ++ sign last ";" :: rest)))
      (Recorded site) s) :
    Gives (assignment (Parser.expression settings count 1)) s (.assignment target value type)
      (At settings count (sign last ";" :: rest) (Recorded (site.after [(target, type)]))) := by
  obtain ⟨stated, kept⟩ := of_suits suited
  refine (gives_current h).bind fun t ht => (gives_advance ht rfl).bind fun u hu => ?_
  refine (gives_expectIdentifier hu rfl).bind fun v hv => ?_
  refine (gives_typeTokens (fun type same => (stated type same).1) hv).bind fun w hw => ?_
  refine (gives_expectOperator hw rfl).bind fun x hx => ?_
  refine (readsBack line value _ _ _ x fits legal (ends_semicolon line last) hx).bind
    fun y hy => ?_
  have late : Gives (lateAnnotation? target type) y type
      (At settings count (sign last ";" :: rest) (Recorded site)) :=
    (gives_acceptOperator_false hy rfl).bind fun _ h => .pure h
  refine late.bind fun z hz => (gives_scopes hz).bind fun z' hz' => ?_
  -- the scopes give the type of the latest assignment, which is used only if none is stated
  rw [hz.known.types]
  change Gives (declare target value (type.or (latestType site.earlier target)) line) z' _ _
  rw [kept]
  exact gives_declare (fun type same => (stated type same).2) hz'

theorem length_le_parameters (line : Nat) (names : List String) :
    names.length ≤ (parameters line names).length := by
  induction names with
  | nil => exact Nat.zero_le _
  | cons first others ih =>
    rw [parameters, List.length_cons, List.length_cons, List.length_cons]
    omega

theorem fresh_of_nodup {seen others : List String} {first : String}
    (nodup : (seen ++ first :: others).Nodup) : seen.contains first = false := by
  rw [← Bool.not_eq_true, List.contains_iff_mem]
  intro mem
  exact (List.nodup_append.1 nodup).2.2 first mem first List.mem_cons_self rfl

theorem gives_parameters {function first : String} {others seen : List String} {rounds : Nat}
    (nodup : (seen ++ first :: others).Nodup) (enough : others.length < rounds)
    (h : At settings count (name line first :: (parameters line others ++ sign line ")" :: rest))
      K s) :
    Gives (Parser.parameters function seen rounds) s (seen ++ first :: others)
      (At settings count (sign line ")" :: rest) K) := by
  induction others generalizing first seen rounds s with
  | nil =>
    obtain ⟨rounds, rfl⟩ := Nat.exists_eq_add_one.2 (Nat.zero_lt_of_lt enough)
    refine (gives_expectIdentifier h rfl).bind fun t ht => ?_
    have fresh : seen.contains (name line first).text = false := fresh_of_nodup nodup
    rw [fresh, if_neg (by decide)]
    exact (gives_acceptOperator_false ht rfl).bind fun u hu => .pure hu
  | cons second others ih =>
    obtain ⟨rounds, rfl⟩ := Nat.exists_eq_add_one.2 (Nat.zero_lt_of_lt enough)
    refine (gives_expectIdentifier h rfl).bind fun t ht => ?_
    have fresh : seen.contains (name line first).text = false := fresh_of_nodup nodup
    rw [fresh, if_neg (by decide)]
    refine (gives_acceptOperator ht rfl).bind fun u hu => ?_
    have regrouped : seen ++ first :: second :: others = (seen ++ [first]) ++ second :: others := by
      rw [List.append_assoc]
      rfl
    rw [regrouped] at nodup ⊢
    exact ih nodup (Nat.lt_of_succ_lt_succ enough) hu

theorem gives_parameterList {function : String} {names : List String} (nodup : names.Nodup)
    (h : At settings count (parameterList line names ++ sign line ")" :: rest) K s) :
    Gives (Parser.parameterList settings function) s names
      (At settings count (sign line ")" :: rest) K) := by
  cases names with
  | nil => exact (gives_current h).bind fun t ht => .pure ht
  | cons first others =>
    have few := h.few
    have long := length_le_parameters line others
    rw [parameterList, List.cons_append] at h few
    simp only [List.length_append, List.length_cons] at few
    refine (gives_current h).bind fun t ht => ?_
    exact gives_parameters nodup (by omega) ht

theorem gives_statementsUntil (readsBack : StatementReadsBack settings count) (read : List Node)
    {closes : Token → Bool} {missing : Expectation} {nodes : List Node} {rounds : Nat}
    {token : Token} (fits : levelsOf nodes ≤ count) (legal : areStatements site nodes = true)
    (apart : ∀ line token, Starts line token → closes token = false)
    (stops : closes token = true) (enough : nodes.length < rounds)
    (h : At settings count (statements layout line nodes ++ token :: rest) (Recorded site) s) :
    Gives (statementsUntil closes missing (Parser.statement settings count) read rounds) s
      (read.reverse ++ nodes)
      (At settings count (token :: rest) (Recorded (site.after (Node.assignmentsOf nodes)))) := by
  induction nodes generalizing read rounds s site layout line with
  | nil =>
    obtain ⟨rounds, rfl⟩ := Nat.exists_eq_add_one.2 (Nat.zero_lt_of_lt enough)
    refine (gives_current h).bind fun t ht => ?_
    rw [if_pos stops, List.append_nil, Node.assignmentsOf, after_nil]
    exact .pure ht
  | cons first others ih =>
    obtain ⟨rounds, rfl⟩ := Nat.exists_eq_add_one.2 (Nat.zero_lt_of_lt enough)
    rw [levelsOf] at fits
    rw [areStatements, Bool.and_eq_true] at legal
    obtain ⟨start, tokens, starts, opens⟩ := statement_cons legal.1 (layout.part 0) line
    rw [statements, List.append_assoc, List.cons_append] at h
    refine (gives_current_append starts h).bind fun t ht => ?_
    -- the first token of a statement neither closes the body nor ends the file
    rw [if_neg (by simp [apart line start opens]), if_neg (by simp [opens.not_eof])]
    refine (readsBack site _ line _ first _ t (by omega) legal.1 ht).bind fun u hu => ?_
    have later := ih (first :: read) (by omega) legal.2 (Nat.lt_of_succ_lt_succ enough) hu
    rw [after_after, ← Node.assignmentsOf] at later
    rwa [List.reverse_cons, List.append_assoc] at later

theorem length_le_statements (layout : Layout) (line : Nat) (nodes : List Node) :
    nodes.length ≤ (statements layout line nodes).length := by
  induction nodes generalizing layout line with
  | nil => exact Nat.zero_le _
  | cons first others ih =>
    have later := ih (layout.part 1) (line + height first)
    rw [statements, List.length_append, List.length_cons, List.length_cons]
    omega

def closingWords : List String :=
  ["ENDDEFUN", "ENDWHILE", "ENDREPEAT", "ELSEIF", "ELSE", "ENDIF"]

theorem closing_apart {text : String} (mem : text ∈ closingWords) :
    (∀ starter ∈ starters, Text.sameWord starter text = false) ∧
      ∀ other ∈ ["OR", "AND", "THEN", "IF"], Text.sameWord text other = false := by
  have all : ∀ text ∈ closingWords, (∀ starter ∈ starters, Text.sameWord starter text = false) ∧
      ∀ other ∈ ["OR", "AND", "THEN", "IF"], Text.sameWord text other = false := by
    decide
  exact all text mem

def Closes (closers : List String) (braced : Bool) (tail : List Token) : Prop :=
  braced = false → ∃ text ∈ closers, ∃ line rest, tail = word line text :: rest

structure Fresh (line : Nat) (token : Token) : Prop where
  ends : Ends line token
  notThen : token.isKeyword "THEN" = false
  notIf : (token.isKeyword "IF" && token.line == line) = false

theorem fresh_of_closing {text : String} (mem : text ∈ closingWords) (line closing : Nat) :
    Fresh line (word closing text) := by
  obtain ⟨-, others⟩ := closing_apart mem
  have notIf : (word closing text).isKeyword "IF" = false := others "IF" (by decide)
  refine ⟨⟨⟨rfl, rfl⟩, ?_⟩, others "THEN" (by decide), ?_⟩
  · exact precedence_of_other (others "OR" (by decide)) (others "AND" (by decide)) closing
  · rw [notIf, Bool.false_and]

theorem Starts.fresh {token : Token} (h : Starts (line + 1) token) : Fresh line token := by
  refine ⟨h.ends (by omega), h.not_keyword (by decide), ?_⟩
  rw [h.line_eq, beq_false_of_ne (by omega), Bool.and_false]

theorem statements_cons {nodes : List Node} (legal : areStatements site nodes = true)
    (layout : Layout) (line : Nat) (follow : Token) (rest : List Token) :
    ∃ token tokens, statements layout line nodes ++ follow :: rest = token :: tokens ∧
      (Starts line token ∨ token = follow) := by
  cases nodes with
  | nil => exact ⟨follow, rest, rfl, .inr rfl⟩
  | cons first others =>
    rw [areStatements, Bool.and_eq_true] at legal
    obtain ⟨token, tokens, starts, opens⟩ := statement_cons legal.1 (layout.part 0) line
    rw [statements, starts, List.cons_append, List.cons_append]
    exact ⟨token, _, rfl, .inl opens⟩

theorem body_cons {nodes : List Node} (legal : areStatements site nodes = true)
    {closers : List String} {braced : Bool} {tail : List Token}
    (known : ∀ text ∈ closers, text ∈ closingWords) (closes : Closes closers braced tail)
    (layout : Layout) (line last : Nat) :
    ∃ token tokens, body braced line last (statements layout (line + 1) nodes) ++ tail =
      token :: tokens ∧ Fresh line token ∧ (braced = false → token.isOperator "\x7b" = false) := by
  cases braced with
  | true => exact ⟨_, _, rfl, ⟨⟨⟨rfl, rfl⟩, rfl⟩, rfl, rfl⟩, fun same => nomatch same⟩
  | false =>
    obtain ⟨text, mem, closing, rest, rfl⟩ := closes rfl
    obtain ⟨token, tokens, starts, opens⟩ :=
      statements_cons legal layout (line + 1) (word closing text) rest
    refine ⟨token, tokens, starts, ?_⟩
    -- an empty body leaves the word that closes it, which may stand on the same line
    rcases opens with opens | rfl
    · exact ⟨opens.fresh, fun _ => opens.not_operator (by decide)⟩
    · exact ⟨fresh_of_closing (known text mem) line closing, fun _ => rfl⟩

theorem gives_body (readsBack : StatementReadsBack settings count) {nodes : List Node}
    {construct : Construct} {closers : List String} {braced : Bool} {tail : List Token}
    (fits : levelsOf nodes ≤ count) (legal : areStatements site nodes = true)
    (known : ∀ text ∈ closers, text ∈ closingWords) (closes : Closes closers braced tail)
    (h : At settings count
      (body braced line last (statements layout (line + 1) nodes) ++ tail) (Recorded site) s) :
    Gives (Parser.body settings (Parser.statement settings count) construct closers) s
      ⟨nodes, braced⟩
      (At settings count tail (Recorded (site.after (Node.assignmentsOf nodes)))) := by
  have few := h.few
  have long := length_le_statements layout (line + 1) nodes
  cases braced with
  | true =>
    rw [body, if_pos rfl, List.cons_append, List.append_assoc] at h few
    simp only [List.length_cons, List.length_append] at few
    refine (gives_acceptOperator h rfl).bind fun t ht => ?_
    rw [if_pos rfl]
    refine (gives_statementsUntil readsBack [] fits legal (fun _ _ opens => ?_) rfl (by omega)
      ht).bind fun u hu => ?_
    · exact opens.not_operator (by decide)
    · exact (gives_advance hu rfl).bind fun v hv => .pure hv
  | false =>
    -- without braces the first token must not be one, and the word after the body is a closer
    obtain ⟨token, tokens, starts, -, notOpening⟩ := body_cons legal known closes layout line last
    obtain ⟨text, mem, closing, rest, rfl⟩ := closes rfl
    have here := h
    rw [starts] at here
    refine (gives_acceptOperator_false here (notOpening rfl)).bind fun t ht => ?_
    rw [← starts] at ht
    rw [body, if_neg (by decide)] at ht few
    simp only [List.length_cons, List.length_append] at few
    refine (gives_statementsUntil readsBack [] fits legal (fun _ _ opens => ?_) ?_ (by omega)
      ht).bind fun u hu => .pure hu
    · simpa using fun closer mem => opens.not_keyword (closing_apart (known closer mem)).1
    · exact List.any_eq_true.2 ⟨text, mem, isKeyword_self closing text⟩

theorem gives_closeBody {nodes : List Node} {text : String} {braced : Bool}
    (h : At settings count (closer last text braced ++ rest) K s) :
    Gives (closeBody ⟨nodes, braced⟩) s nodes (At settings count rest K) := by
  cases braced with
  | true => exact .pure h
  | false => exact (gives_advance h rfl).bind fun t ht => .pure ht

theorem closes_closer (text : String) (braced : Bool) (last : Nat) (rest : List Token) :
    Closes [text] braced (closer last text braced ++ rest) := by
  rintro rfl
  exact ⟨text, List.mem_singleton_self text, last, rest, rfl⟩

theorem gives_functionDefinition (readsBack : StatementReadsBack settings count)
    {function : String} {names : List String} {nodes : List Node} {braced : Bool}
    (fits : levelsOf nodes ≤ count) (nodup : names.Nodup)
    (legal : areStatements site.inFunction nodes = true)
    (h : At settings count (word line "DEFUN" :: name line function :: sign line "(" ::
      (parameterList line names ++ sign line ")" ::
        (body braced line last (statements layout (line + 1) nodes) ++
          (closer last "ENDDEFUN" braced ++ rest)))) (Recorded site) s) :
    Gives (functionDefinition settings (Parser.statement settings count)) s
      (.functionDefinition function names nodes) (At settings count rest (Recorded site)) := by
  refine (gives_advance h rfl).bind fun t ht => ?_
  refine (gives_expectIdentifier ht rfl).bind fun u hu => ?_
  refine (gives_expectOperator hu rfl).bind fun v hv => ?_
  refine (gives_parameterList nodup hv).bind fun w hw => ?_
  refine (gives_expectOperator hw rfl).bind fun x hx => (gives_note _ hx).bind fun y hy => ?_
  refine (gives_change (.declareFunction function names) hy fun _ recorded =>
    recorded.declareFunction function names).bind fun z hz => ?_
  have balanced := (closed_balanced settings).body (statement_balanced settings count)
    (.function function) ["ENDDEFUN"]
  refine (gives_inFunction balanced hz fun t ht => gives_body readsBack fits legal (by decide)
    (closes_closer "ENDDEFUN" braced last rest) ht).bind fun t ht => ?_
  exact (gives_closeBody ht).bind fun u hu => .pure hu

theorem gives_loopBody (readsBack : StatementReadsBack settings count) {construct : Construct}
    {nodes : List Node} {braced : Bool} (fits : levelsOf nodes ≤ count)
    (legal : areStatements site.inLoop nodes = true) (known : construct.closer ∈ closingWords)
    (h : At settings count (body braced line last (statements layout (line + 1) nodes) ++
      (closer last construct.closer braced ++ rest)) (Recorded site) s) :
    Gives (loopBody settings (Parser.statement settings count) construct) s nodes
      (At settings count rest (Recorded (site.after (Node.assignmentsOf nodes)))) := by
  refine (gives_inLoop h fun t ht => gives_body readsBack fits legal ?_
    (closes_closer construct.closer braced last rest) ht).bind fun t ht => gives_closeBody ht
  intro text mem
  rwa [List.mem_singleton.1 mem]

theorem gives_whileLoop (expressions : ReadsBack settings count)
    (readsBack : StatementReadsBack settings count) {condition : Node} {nodes : List Node}
    {braced : Bool} (fits : levels condition ≤ count) (fitsBody : levelsOf nodes ≤ count)
    (legal : isExpression condition = true) (legalBody : areStatements site.inLoop nodes = true)
    (h : At settings count (word line "WHILE" :: (expression line condition ++
      (body braced line last (statements layout (line + 1) nodes) ++
        (closer last "ENDWHILE" braced ++ rest)))) (Recorded site) s) :
    Gives (whileLoop settings (Parser.expression settings count 1)
      (Parser.statement settings count)) s (.whileLoop condition nodes)
      (At settings count rest (Recorded (site.after (Node.assignmentsOf nodes)))) := by
  have known : Construct.whileLoop.closer ∈ closingWords := by decide
  obtain ⟨token, tokens, starts, fresh, -⟩ :=
    body_cons legalBody (by decide) (closes_closer "ENDWHILE" braced last rest) layout line last
  refine (gives_advance h rfl).bind fun t ht => ?_
  rw [starts] at ht
  refine (expressions line condition _ _ _ t fits legal fresh.ends ht).bind fun u hu => ?_
  rw [← starts] at hu
  exact (gives_loopBody readsBack fitsBody legalBody known hu).bind fun v hv => .pure hv

theorem gives_repeatLoop (expressions : ReadsBack settings count)
    (readsBack : StatementReadsBack settings count) {times : Node} {nodes : List Node}
    {braced : Bool} (fits : levels times ≤ count) (fitsBody : levelsOf nodes ≤ count)
    (legal : isExpression times = true) (legalBody : areStatements site.inLoop nodes = true)
    (h : At settings count (word line "REPEAT" :: (expression line times ++ word line "TIMES" ::
      (body braced line last (statements layout (line + 1) nodes) ++
        (closer last "ENDREPEAT" braced ++ rest)))) (Recorded site) s) :
    Gives (repeatLoop settings (Parser.expression settings count 1)
      (Parser.statement settings count)) s (.repeatLoop times nodes)
      (At settings count rest (Recorded (site.after (Node.assignmentsOf nodes)))) := by
  have known : Construct.repeatLoop.closer ∈ closingWords := by decide
  have ends : Ends line (word line "TIMES") :=
    ⟨⟨rfl, rfl⟩, precedence_of_other (by decide) (by decide) line⟩
  refine (gives_advance h rfl).bind fun t ht => ?_
  refine (expressions line times _ _ _ t fits legal ends ht).bind fun u hu => ?_
  refine (gives_expectKeyword hu (isKeyword_self line "TIMES")).bind fun v hv => ?_
  exact (gives_loopBody readsBack fitsBody legalBody known hv).bind fun w hw => .pure hw

theorem control_cons (layout : Layout) (line : Nat) (control : Control) (value : Option Node)
    (rest : List Token) :
    ∃ tokens, statement layout line (.controlStatement control value) ++ rest =
      word line control.word :: tokens := by
  cases value <;> exact ⟨_, rfl⟩

theorem gives_controlStatement (expressions : ReadsBack settings count) {control : Control}
    {value : Option Node} (fits : ∀ node, value = some node → levels node ≤ count)
    (legal : isControlValue control value = true) (inside : control.context ∈ site.contexts)
    (h : At settings count (statement layout line (.controlStatement control value) ++
      sign last ";" :: rest) (Recorded site) s) :
    Gives (controlStatement (Parser.expression settings count 1) control) s
      (.controlStatement control value)
      (At settings count (sign last ";" :: rest) (Recorded site)) := by
  -- a value is read only if it starts on the line of the word
  have valued : ∀ t, At settings count ((statement layout line (.controlStatement control value) ++
      sign last ";" :: rest).tail) (Recorded site) t →
      Gives (controlValue (Parser.expression settings count 1) control line) t value
        (At settings count (sign last ";" :: rest) (Recorded site)) := by
    intro t ht
    cases value with
    | none =>
      refine (gives_current ht).bind fun u hu => ?_
      rw [if_neg (by rw [Bool.not_eq_true]; exact Bool.and_false _)]
      exact .pure hu
    | some node =>
      rw [isControlValue, Bool.and_eq_true] at legal
      obtain ⟨token, tokens, starts, place, opens, -⟩ := expression_cons legal.2 line
      refine (gives_current_append starts ht).bind fun u hu => ?_
      rw [legal.1, place, opens, beq_self_eq_true, if_pos (by rfl)]
      exact (expressions line node _ _ _ u (fits node rfl) legal.2 (ends_semicolon line last)
        hu).bind fun v hv => .pure hv
  obtain ⟨tokens, starts⟩ := control_cons layout line control value (sign last ";" :: rest)
  rw [starts] at h valued
  refine (gives_current h).bind fun t ht => (gives_advance ht rfl).bind fun u hu => ?_
  refine (valued u hu).bind fun v hv => (gives_scopes hv).bind fun w hw => ?_
  rw [if_pos (by rw [Tracker.inside, List.contains_iff_mem, hv.known.contexts]; exact inside)]
  exact .pure hw

theorem gives_moveMouse (expressions : ReadsBack settings count) {x y : Node}
    (fits : max (levels x) (levels y) ≤ count) (legal : isExpression x = true)
    (legal' : isExpression y = true)
    (h : At settings count (word line "MOVE" :: word line "MOUSE" :: word line "TO" ::
      sign line "(" :: (expression line x ++ sign line "," ::
        (expression line y ++ sign line ")" :: rest))) K s) :
    Gives (moveMouse (Parser.expression settings count 1)) s (.moveMouse x y)
      (At settings count rest K) := by
  refine (gives_advance h rfl).bind fun t ht => ?_
  refine (gives_expectKeyword ht (isKeyword_self line "MOUSE")).bind fun u hu => ?_
  refine (gives_expectKeyword hu (isKeyword_self line "TO")).bind fun v hv => ?_
  refine (gives_acceptOperator hv rfl).bind fun w hw => ?_
  refine (expressions line x _ _ K w (by omega) legal (ends_comma line) hw).bind fun a ha => ?_
  refine (gives_expectOperator ha rfl).bind fun b hb => ?_
  refine (expressions line y _ _ K b (by omega) legal' (ends_closing line) hb).bind fun c hc => ?_
  exact (gives_expectOperator hc rfl).bind fun d hd => .pure hd

theorem gives_keyOperation {operation key : String}
    (h : At settings count (word line operation :: word line "KEY" ::
      ⟨.string, some key, line⟩ :: rest) K s) :
    Gives (inputOperation operation) s (.keyOperation operation key)
      (At settings count rest K) := by
  refine (gives_advance h rfl).bind fun t ht => ?_
  refine (gives_acceptKeyword ht (isKeyword_self line "KEY")).bind fun u hu => ?_
  rw [if_pos rfl]
  refine (gives_current hu).bind fun v hv => ?_
  exact (gives_advance hv rfl).bind fun w hw => .pure hw

theorem buttons_known : ∀ button ∈ buttons,
    Keyword.category? button = some .mouseButton ∧ Text.upper button = button := by
  decide

theorem gives_buttonOperation {operation button : String} (known : button ∈ buttons)
    (h : At settings count (word line operation :: word line "BUTTON" :: word line button :: rest)
      K s) :
    Gives (inputOperation operation) s (.buttonOperation button) (At settings count rest K) := by
  obtain ⟨category, upper⟩ := buttons_known button known
  have notKey : (word line "BUTTON").isKeyword "KEY" = false := by
    rw [isKeyword_word]
    decide
  refine (gives_advance h rfl).bind fun t ht => ?_
  refine (gives_acceptKeyword_false ht notKey).bind fun u hu => ?_
  rw [if_neg (by decide)]
  refine (gives_acceptKeyword hu (isKeyword_self line "BUTTON")).bind fun v hv => ?_
  rw [if_pos rfl]
  refine (gives_current hv).bind fun w hw => ?_
  have listed : (word line button).category? = some .mouseButton := category
  rw [if_pos listed]
  refine (gives_advance hw rfl).bind fun x hx => ?_
  change Gives (pure (Node.buttonOperation (Text.upper button))) x _ _
  rw [upper]
  exact .pure hx

theorem gives_updateStatement (unchecked : settings.options = .none) {text operation : String}
    (known : steps.contains operation = true)
    (h : At settings count (name line text :: sign line operation :: rest) K s) :
    Gives (identifierStatement settings inner) s (.update text operation false)
      (At settings count rest K) := by
  obtain ⟨step, -, -⟩ := step_of_mem known line
  refine (gives_current h).bind fun t ht => (gives_next? ht).bind fun u hu => ?_
  rw [Option.any_some, step, if_pos rfl]
  refine (gives_advance hu rfl).bind fun v hv => ?_
  refine (gives_requireVariable unchecked hv).bind fun w hw => ?_
  refine (gives_current hw).bind fun x hx => ?_
  exact (gives_advance hx rfl).bind fun y hy => .pure hy

theorem gives_callStatement (expressions : ReadsBack settings count)
    (unchecked : settings.options = .none) {text : String} {nodes : List Node}
    (fits : levelsOf nodes ≤ count) (legal : areExpressions nodes = true)
    (h : At settings count (expression line (.functionCall text nodes) ++ rest) K s) :
    Gives (identifierStatement settings (Parser.expression settings count 1)) s
      (.functionCall text nodes) (At settings count rest K) := by
  rw [expression_call, List.cons_append, List.cons_append, List.append_assoc] at h
  refine (gives_current h).bind fun t ht => (gives_next? ht).bind fun u hu => ?_
  exact (gives_advance hu rfl).bind fun v hv => gives_call expressions unchecked fits legal hv

end DeskScript.Printer
