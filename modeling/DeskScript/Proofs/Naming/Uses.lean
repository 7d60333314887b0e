import DeskScript.Proofs.Naming.Program
import DeskScript.Proofs.Naming.Strictness

/-!
The uses of names in a tree, in the order of the source, each with the names that can be seen there.
A tree passes the check on names if and only if every use is allowed: `Node.check_eq_walk`. If names
are to be resolved, a name that stands for itself has to be a variable, although the specification
also lets it be a function; this is the only difference between the two: `resolved_of_specified`.
-/

namespace DeskScript

/-- How a name is used. -/
inductive Use where
  | bare (name : String)
  | update (name : String)
  | call (name : String) (given : Nat)
  deriving DecidableEq, Repr

structure Occurrence where
  use : Use
  visible : Names

namespace Occurrence

def allowed (options : Options) (occurrence : Occurrence) : Bool :=
  match occurrence.use with
  | .bare name | .update name => !options.resolveNames || occurrence.visible.seesVariable name
  | .call name given =>
    match occurrence.visible.arity? name with
    | some count => !options.checkArity || count == given
    | none => !options.resolveNames

/-- Whether the specification of resolved names allows a use. -/
def specified (occurrence : Occurrence) : Bool :=
  match occurrence.use with
  | .bare name =>
    occurrence.visible.seesVariable name || (occurrence.visible.arity? name).isSome
  | .update name => occurrence.visible.seesVariable name
  | .call name _ => (occurrence.visible.arity? name).isSome

def ofVariable (occurrence : Occurrence) : Bool :=
  match occurrence.use with
  | .bare name => occurrence.visible.seesVariable name
  | .update _ | .call .. => true

theorem allowed_of_specified {occurrence : Occurrence} (specified : occurrence.specified = true) :
    occurrence.allowed ⟨true, false⟩ = occurrence.ofVariable := by
  obtain ⟨use, visible⟩ := occurrence
  cases use with
  | bare name => rfl
  | update name => exact specified
  | call name given =>
    obtain ⟨count, found⟩ := Option.isSome_iff_exists.1 specified
    simp only [allowed, found]
    rfl

end Occurrence

abbrev Walk : Type :=
  Names → List Occurrence × Names

namespace Walk

open Check

variable {options : Options}

def still : Walk := fun names => ([], names)

def use (how : Use) : Walk := fun names => ([⟨how, names⟩], names)

def andThen (first second : Walk) : Walk := fun names =>
  ((first names).1 ++ (second (first names).2).1, (second (first names).2).2)

def declaring (walk : Walk) (target : String) : Walk := fun names =>
  ((walk names).1, (walk names).2.addVariable target)

def inFunction (name : String) (parameters : List String) (walk : Walk) : Walk := fun names =>
  let declared := names.addFunction name parameters.length
  ((walk (declared.enter parameters)).1, declared)

def inTurn : List Walk → List Walk → Walk
  | first :: firsts, second :: seconds => (first.andThen second).andThen (inTurn firsts seconds)
  | _, _ => still

def check (options : Options) (walk : Walk) : Check := fun names =>
  if (walk names).1.all (·.allowed options) then some (walk names).2 else none

theorem check_still : still.check options = some := rfl

theorem check_use (how : Use) (names : Names) : (use how).check options names =
    if Occurrence.allowed options ⟨how, names⟩ then some names else none := by
  rw [check, use, List.all_cons, List.all_nil, Bool.and_true]

theorem check_bare (name : String) :
    (use (.bare name)).check options = useVariable options name := by
  funext names
  rw [check_use, useVariable]
  change (if !options.resolveNames || names.seesVariable name then _ else _) = _
  cases options.resolveNames <;> cases names.seesVariable name <;> rfl

theorem check_update (name : String) :
    (use (.update name)).check options = useVariable options name :=
  check_bare name

theorem check_call (name : String) (given : Nat) :
    (use (.call name given)).check options = useFunction options name given := by
  funext names
  cases found : names.arity? name with
  | none =>
    simp only [check_use, useFunction, Occurrence.allowed, found]
    cases options.resolveNames <;> rfl
  | some count =>
    simp only [check_use, useFunction, Occurrence.allowed, found]
    cases options.checkArity with
    | false => rfl
    | true => by_cases same : count = given <;> simp [same]

theorem check_andThen (first second : Walk) : (first.andThen second).check options =
    (first.check options).andThen (second.check options) := by
  funext names
  rw [check, Walk.andThen, Check.andThen, check, List.all_append]
  cases (first names).1.all (·.allowed options) <;> rfl

theorem check_declaring (walk : Walk) (target : String) (names : Names) :
    (walk.declaring target).check options names =
      (walk.check options names).map (·.addVariable target) := by
  rw [check, declaring, check]
  cases (walk names).1.all (·.allowed options) <;> rfl

theorem check_inFunction (name : String) (parameters : List String) (walk : Walk)
    (names : Names) : (walk.inFunction name parameters).check options names =
      inScope parameters (walk.check options) (names.addFunction name parameters.length) := by
  rw [check, inFunction, inScope, check]
  dsimp only
  cases (walk ((names.addFunction name parameters.length).enter parameters)).1.all
    (·.allowed options) <;> rfl

theorem check_inTurn (firsts seconds : List Walk) : (inTurn firsts seconds).check options =
    Check.inTurn (firsts.map (check options)) (seconds.map (check options)) := by
  induction firsts generalizing seconds with
  | nil => rfl
  | cons first firsts ih =>
    cases seconds with
    | nil => rfl
    | cons second seconds =>
      rw [inTurn, check_andThen, check_andThen, ih]
      rfl

end Walk

namespace Node

mutual

def walk : Node → Walk
  | .program statements => walkAll statements
  | .functionDefinition name parameters body => (walkAll body).inFunction name parameters
  | .assignment target value _ => (walk value).declaring target
  | .printStatement _ expression | .waitStatement expression => walk expression
  | .moveMouse x y => (walk x).andThen (walk y)
  | .binaryOperation _ left right => (walk left).andThen (walk right)
  | .identifier name => .use (.bare name)
  | .update name _ _ => .use (.update name)
  | .functionCall function arguments =>
    (walkAll arguments).andThen (.use (.call function arguments.length))
  | .whileLoop condition body => (walk condition).andThen (walkAll body)
  | .repeatLoop count body => (walk count).andThen (walkAll body)
  | .controlStatement _ value => walkOption value
  | .ifStatement condition thenBody elseIfConditions elseIfBodies elseBody =>
    (((walk condition).andThen (walkAll thenBody)).andThen
      (.inTurn (walkEach elseIfConditions) (walkBodies elseIfBodies))).andThen (walkBody elseBody)
  | .keyOperation .. | .buttonOperation _ | .integer _ | .float _ | .time .. | .string _
  | .boolean _ | .emptyStatement => .still

def walkAll : List Node → Walk
  | [] => .still
  | node :: rest => (walk node).andThen (walkAll rest)

def walkEach : List Node → List Walk
  | [] => []
  | node :: rest => walk node :: walkEach rest

def walkBodies : List (List Node) → List Walk
  | [] => []
  | body :: rest => walkAll body :: walkBodies rest

def walkOption : Option Node → Walk
  | none => .still
  | some node => walk node

def walkBody : Option (List Node) → Walk
  | none => .still
  | some body => walkAll body

end

def occurrences (ast : Node) : List Occurrence :=
  (ast.walk .start).1

mutual

theorem check_eq_walk (options : Options) : (node : Node) →
    node.check options = node.walk.check options
  | .program statements => by rw [check, walk, checkAll_eq_walk]
  | .functionDefinition name parameters body => by
    funext names
    rw [check, walk, Walk.check_inFunction, checkAll_eq_walk]
  | .assignment target value _ => by
    funext names
    rw [check, walk, Walk.check_declaring, check_eq_walk options value]
  | .printStatement _ node | .waitStatement node => by rw [check, walk, check_eq_walk options node]
  | .moveMouse first second | .binaryOperation _ first second => by
    rw [check, walk, Walk.check_andThen, check_eq_walk options first, check_eq_walk options second]
  | .identifier name => by rw [check, walk, Walk.check_bare]
  | .update name _ _ => by rw [check, walk, Walk.check_update]
  | .functionCall function arguments => by
    rw [check, walk, Walk.check_andThen, Walk.check_call, checkAll_eq_walk]
  | .whileLoop node body | .repeatLoop node body => by
    rw [check, walk, Walk.check_andThen, check_eq_walk options node, checkAll_eq_walk]
  | .controlStatement _ value => by rw [check, walk, checkOption_eq_walk]
  | .ifStatement condition thenBody elseIfConditions elseIfBodies elseBody => by
    rw [check, walk, Walk.check_andThen, Walk.check_andThen, Walk.check_andThen,
      Walk.check_inTurn, check_eq_walk options condition, checkAll_eq_walk, checkEach_eq_walk,
      checkBodies_eq_walk, checkBody_eq_walk]
  | .keyOperation .. | .buttonOperation _ | .integer _ | .float _ | .time .. | .string _
  | .boolean _ | .emptyStatement => by rw [check, walk, Walk.check_still]

theorem checkAll_eq_walk (options : Options) : (nodes : List Node) →
    checkAll options nodes = (walkAll nodes).check options
  | [] => by rw [checkAll, walkAll, Walk.check_still]
  | node :: rest => by
    rw [checkAll, walkAll, Walk.check_andThen, check_eq_walk options node,
      checkAll_eq_walk options rest]

theorem checkEach_eq_walk (options : Options) : (nodes : List Node) →
    checkEach options nodes = (walkEach nodes).map (Walk.check options)
  | [] => rfl
  | node :: rest => by
    rw [checkEach, walkEach, List.map_cons, check_eq_walk options node,
      checkEach_eq_walk options rest]

theorem checkBodies_eq_walk (options : Options) : (bodies : List (List Node)) →
    checkBodies options bodies = (walkBodies bodies).map (Walk.check options)
  | [] => rfl
  | body :: rest => by
    rw [checkBodies, walkBodies, List.map_cons, checkAll_eq_walk options body,
      checkBodies_eq_walk options rest]

theorem checkOption_eq_walk (options : Options) : (value : Option Node) →
    checkOption options value = (walkOption value).check options
  | none => by rw [checkOption, walkOption, Walk.check_still]
  | some node => by rw [checkOption, walkOption, check_eq_walk options node]

theorem checkBody_eq_walk (options : Options) : (body : Option (List Node)) →
    checkBody options body = (walkBody body).check options
  | none => by rw [checkBody, walkBody, Walk.check_still]
  | some body => by rw [checkBody, walkBody, checkAll_eq_walk options body]

end

theorem passes_eq_all (options : Options) (ast : Node) :
    ast.passes options = ast.occurrences.all (·.allowed options) := by
  rw [passes, check_eq_walk, Walk.check, occurrences]
  cases (ast.walk .start).1.all (·.allowed options) <;> rfl

end Node

namespace Parser

variable {options : Options} {tokens : List Token} {ast : Node}

theorem parse_of_passes (read : (parse .none tokens).result = .ok ast)
    (passes : ast.passes options = true) : (parse options tokens).result = .ok ast := by
  have judged := program_judged (settingsFor defaultLimit options tokens) defaultLimit
    (Cursor.complete tokens).length (some .start)
  obtain ⟨t, ran⟩ : ∃ t, (reader defaultLimit .none tokens).run (start .initial tokens) =
      (.ok ast, t) := ⟨_, Prod.ext read rfl⟩
  have initial : ∀ names, some Names.start = some names →
      names.Describe (start .initial tokens).scopes := by
    rintro names ⟨⟩
    exact Names.Describe.initial
  obtain ⟨-, ran'⟩ := judged.complete initial ran passes
  exact congrArg Prod.fst ran'

theorem passes_of_parse (accepted : (parse options tokens).result = .ok ast) :
    ast.passes options = true := by
  have judged := program_judged (settingsFor defaultLimit options tokens) defaultLimit
    (Cursor.complete tokens).length (some .start)
  obtain ⟨t, ran⟩ : ∃ t, (reader defaultLimit options tokens).run (start .initial tokens) =
      (.ok ast, t) := ⟨_, Prod.ext accepted rfl⟩
  obtain ⟨-, after, passes, -⟩ := judged.sound rfl Names.Describe.initial ran
  exact Option.isSome_iff_exists.2 ⟨after, passes⟩

theorem same_or_refused (options : Options) (tokens : List Token) :
    parse options tokens = parse .none tokens ∨
      ∃ d, (parse options tokens).result = .error d ∧ d.kind = .type := by
  have within : Options.none.Within options := ⟨nofun, nofun⟩
  have read : StricterAt (start .initial tokens) (reader defaultLimit .none tokens)
      (reader defaultLimit options tokens) :=
    program_stricter (settingsFor defaultLimit .none tokens)
      (settingsFor defaultLimit options tokens) rfl rfl within defaultLimit _
  rcases read with same | ⟨d, t, failed, ofCheck⟩
  · refine .inl ?_
    unfold parse parseFrom
    rw [same]
  · exact .inr ⟨d, congrArg Prod.fst failed, ofCheck.kind⟩

/--
Let tokens be accepted without checks on names, and let every use of a name in their tree be one
that the specification of resolved names allows: a name that stands for itself is a visible variable
or function, one that is updated a visible variable, and one that is called a visible function. Then
the tokens are read in the same way if names are to be resolved, unless a name that stands for
itself is not a visible variable but only a function; then they are refused with an error of types.
-/
theorem resolved_of_specified (read : (parse .none tokens).result = .ok ast)
    (specified : ∀ occurrence ∈ ast.occurrences, occurrence.specified = true) :
    ((∀ occurrence ∈ ast.occurrences, occurrence.ofVariable = true) →
      (parse ⟨true, false⟩ tokens).result = .ok ast ∧
        parse ⟨true, false⟩ tokens = parse .none tokens) ∧
    ((∃ occurrence ∈ ast.occurrences, occurrence.ofVariable = false) →
      ∃ d, (parse ⟨true, false⟩ tokens).result = .error d ∧ d.kind = .type) := by
  have judged : ast.passes ⟨true, false⟩ = ast.occurrences.all (·.ofVariable) := by
    rw [Node.passes_eq_all, Bool.eq_iff_iff, List.all_eq_true, List.all_eq_true]
    refine forall₂_congr fun occurrence mem => ?_
    rw [Occurrence.allowed_of_specified (specified occurrence mem)]
  have either := same_or_refused ⟨true, false⟩ tokens
  constructor
  · intro plain
    have accepted := parse_of_passes read (judged.trans (List.all_eq_true.2 plain))
    refine ⟨accepted, either.resolve_right ?_⟩
    rintro ⟨d, refused, -⟩
    cases accepted.symm.trans refused
  · rintro ⟨occurrence, mem, function⟩
    refine either.resolve_left fun same => ?_
    have passes := passes_of_parse ((congrArg Outcome.result same).trans read)
    rw [judged] at passes
    have plain := List.all_eq_true.1 passes occurrence mem
    exact Bool.false_ne_true (function.symm.trans plain)

def countdown : List Token :=
  [⟨.keyword, some "DEFUN", 1⟩, ⟨.identifier, some "f", 1⟩, ⟨.operator, some "(", 1⟩,
    ⟨.identifier, some "n", 1⟩, ⟨.operator, some ")", 1⟩, ⟨.operator, some "\x7b", 1⟩,
    ⟨.operator, some "--", 2⟩, ⟨.identifier, some "n", 2⟩,
    ⟨.identifier, some "f", 3⟩, ⟨.operator, some "(", 3⟩, ⟨.identifier, some "n", 3⟩,
    ⟨.operator, some ")", 3⟩, ⟨.operator, some "\x7d", 4⟩,
    ⟨.keyword, some "SET", 5⟩, ⟨.identifier, some "x", 5⟩, ⟨.operator, some "=", 5⟩,
    ⟨.integer, some "3", 5⟩, ⟨.identifier, some "f", 6⟩, ⟨.operator, some "(", 6⟩,
    ⟨.identifier, some "x", 6⟩, ⟨.operator, some ")", 6⟩]

theorem resolved_of_specified_countdown :
    (parse ⟨true, false⟩ countdown).result = .ok (.program
      [.functionDefinition "f" ["n"]
        [.update "n" "--" true, .functionCall "f" [.identifier "n"]],
        .assignment "x" (.integer 3) none, .functionCall "f" [.identifier "x"]]) :=
  ((resolved_of_specified rfl (by decide)).1 (by decide)).1

def printedFunction : List Token :=
  [⟨.keyword, some "DEFUN", 1⟩, ⟨.identifier, some "f", 1⟩, ⟨.operator, some "(", 1⟩,
    ⟨.operator, some ")", 1⟩, ⟨.operator, some "\x7b", 1⟩, ⟨.operator, some "\x7d", 1⟩,
    ⟨.keyword, some "PRINT", 2⟩, ⟨.identifier, some "f", 2⟩]

/-- The specification allows the name of a function to stand for itself, and it is refused. -/
theorem specified_refused :
    ∃ ast, (parse .none printedFunction).result = .ok ast ∧
      (∀ occurrence ∈ ast.occurrences, occurrence.specified = true) ∧
      (parse ⟨true, false⟩ printedFunction).result = .error ⟨.undefinedVariable "f", 2⟩ :=
  ⟨.program [.functionDefinition "f" [] [], .printStatement "PRINT" (.identifier "f")], rfl,
    by decide, rfl⟩

end Parser

end DeskScript
