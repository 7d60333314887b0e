import Mathlib.Data.List.Forall2
import DeskScript.Proofs.Parser.Balance
import DeskScript.Proofs.Scope

/-!
Checking names by a pass of its own over the finished tree, in the order of the source. The pass
carries the names that can be seen, refuses a use that the options do not allow, and knows nothing
of tokens. `Names.Describe` ties the names to the scopes that a parser keeps, which also hold types
and contexts.
-/

namespace DeskScript

structure Frame where
  variableNames : List String
  functions : List (String × Nat)

/-- The scopes that can be seen from a place, innermost first. -/
structure Names where
  current : Frame
  outer : List Frame

namespace Names

def start : Names := ⟨⟨[], []⟩, []⟩

def frames (names : Names) : List Frame :=
  names.current :: names.outer

def seesVariable (names : Names) (name : String) : Bool :=
  names.frames.any fun frame => frame.variableNames.contains name

def arity? (names : Names) (name : String) : Option Nat :=
  names.frames.findSome? fun frame => frame.functions.lookup name

def addVariable (names : Names) (name : String) : Names :=
  { names with current.variableNames := name :: names.current.variableNames }

def addFunction (names : Names) (name : String) (count : Nat) : Names :=
  { names with current.functions := (name, count) :: names.current.functions }

def enter (names : Names) (parameters : List String) : Names :=
  ⟨⟨parameters.reverse, []⟩, names.frames⟩

end Names

abbrev Check : Type :=
  Names → Option Names

namespace Check

def useVariable (options : Options) (name : String) : Check := fun names =>
  if options.resolveNames && !names.seesVariable name then none else some names

def useFunction (options : Options) (name : String) (given : Nat) : Check := fun names =>
  match names.arity? name with
  | some count => if options.checkArity && count != given then none else some names
  | none => if options.resolveNames then none else some names

def andThen (first second : Check) : Check := fun names =>
  (first names).bind second

def inScope (parameters : List String) (check : Check) : Check := fun names =>
  (check (names.enter parameters)).map fun _ => names

def inTurn : List Check → List Check → Check
  | first :: firsts, second :: seconds => (first.andThen second).andThen (inTurn firsts seconds)
  | _, _ => some

end Check

namespace Node

open Check

mutual

/-- The check of a node, in the order of the source. -/
def check (options : Options) : Node → Check
  | .program statements => checkAll options statements
  | .functionDefinition name parameters body => fun names =>
    inScope parameters (checkAll options body) (names.addFunction name parameters.length)
  | .assignment target value _ => fun names =>
    (check options value names).map (·.addVariable target)
  | .printStatement _ expression | .waitStatement expression => check options expression
  | .moveMouse x y => (check options x).andThen (check options y)
  | .binaryOperation _ left right => (check options left).andThen (check options right)
  | .identifier name | .update name _ _ => useVariable options name
  | .functionCall function arguments =>
    (checkAll options arguments).andThen (useFunction options function arguments.length)
  | .whileLoop condition body => (check options condition).andThen (checkAll options body)
  | .repeatLoop count body => (check options count).andThen (checkAll options body)
  | .controlStatement _ value => checkOption options value
  | .ifStatement condition thenBody elseIfConditions elseIfBodies elseBody =>
    (((check options condition).andThen (checkAll options thenBody)).andThen
      (inTurn (checkEach options elseIfConditions) (checkBodies options elseIfBodies))).andThen
      (checkBody options elseBody)
  | .keyOperation .. | .buttonOperation _ | .integer _ | .float _ | .time .. | .string _
  | .boolean _ | .emptyStatement => some

def checkAll (options : Options) : List Node → Check
  | [] => some
  | node :: rest => (check options node).andThen (checkAll options rest)

def checkEach (options : Options) : List Node → List Check
  | [] => []
  | node :: rest => check options node :: checkEach options rest

def checkBodies (options : Options) : List (List Node) → List Check
  | [] => []
  | body :: rest => checkAll options body :: checkBodies options rest

def checkOption (options : Options) : Option Node → Check
  | none => some
  | some node => check options node

def checkBody (options : Options) : Option (List Node) → Check
  | none => some
  | some body => checkAll options body

end

def passes (options : Options) (ast : Node) : Bool :=
  (ast.check options .start).isSome

end Node

structure Frame.Describes (frame : Frame) (scope : Scope) : Prop where
  variableNames : ∀ name, scope.variableTypes.contains name = frame.variableNames.contains name
  functions : ∀ name, (scope.functions.get? name).map List.length = frame.functions.lookup name

def Names.Describe (names : Names) (tracker : Tracker) : Prop :=
  List.Forall₂ Frame.Describes names.frames tracker.chain

namespace Tracker

theorem chain_eq (tracker : Tracker) : tracker.chain = tracker.current :: tracker.outer := by
  obtain ⟨global, nested, contexts⟩ := tracker
  cases nested <;> rfl

theorem seesFunction_eq (tracker : Tracker) (name : String) :
    tracker.seesFunction name = (tracker.parametersOf? name).isSome := by
  unfold seesFunction parametersOf?
  induction tracker.chain with
  | nil => rfl
  | cons scope outer ih =>
    rw [List.any_cons, List.findSome?_cons, ih, Table.contains]
    cases scope.functions.get? name <;> rfl

end Tracker

namespace Names

variable {names : Names} {tracker : Tracker}

theorem describe_iff : names.Describe tracker ↔
    names.current.Describes tracker.current ∧
      List.Forall₂ Frame.Describes names.outer tracker.outer := by
  rw [Describe, frames, Tracker.chain_eq, List.forall₂_cons]

theorem foldl_addVariable (added : List String) (names : Names) :
    added.foldl Names.addVariable names =
      { names with current.variableNames := added.reverse ++ names.current.variableNames } := by
  induction added generalizing names with
  | nil => rfl
  | cons name others ih => simp [ih, Names.addVariable]

namespace Describe

theorem initial : start.Describe .initial :=
  .cons ⟨fun _ => rfl, fun _ => rfl⟩ .nil

theorem of_chain {other : Tracker} (describe : names.Describe tracker)
    (same : other.chain = tracker.chain) : names.Describe other := by
  rw [Describe, same]
  exact describe

theorem addVariable (describe : names.Describe tracker) (name : String) (type : Option String) :
    (names.addVariable name).Describe (tracker.declareVariable name type) := by
  obtain ⟨current, outer⟩ := describe_iff.1 describe
  rw [describe_iff, Tracker.declareVariable, Tracker.current_modifyCurrent,
    Parser.modifyCurrent_outer]
  refine ⟨⟨fun other => ?_, current.functions⟩, outer⟩
  have others := current.variableNames other
  rw [Table.contains] at others ⊢
  rw [Table.get?_insert, Names.addVariable, List.contains_cons]
  by_cases same : other = name
  · simp [same]
  · rw [if_neg same, others, beq_false_of_ne same, Bool.false_or]

theorem addFunction (describe : names.Describe tracker) (name : String)
    (parameters : List String) :
    (names.addFunction name parameters.length).Describe
      (tracker.declareFunction name parameters) := by
  obtain ⟨current, outer⟩ := describe_iff.1 describe
  rw [describe_iff, Tracker.declareFunction, Tracker.current_modifyCurrent,
    Parser.modifyCurrent_outer]
  refine ⟨⟨current.variableNames, fun other => ?_⟩, outer⟩
  have others := current.functions other
  rw [Table.get?_insert, Names.addFunction, List.lookup_cons]
  by_cases same : other = name
  · simp [same]
  · rw [if_neg same, others, beq_false_of_ne same]

theorem seesVariable (describe : names.Describe tracker) (name : String) :
    tracker.seesVariable name = names.seesVariable name := by
  unfold Describe at describe
  unfold Tracker.seesVariable Names.seesVariable
  generalize names.frames = frames, tracker.chain = scopes at describe
  induction describe with
  | nil => rfl
  | cons first _ ih => rw [List.any_cons, List.any_cons, first.variableNames, ih]

theorem arity? (describe : names.Describe tracker) (name : String) :
    (tracker.parametersOf? name).map List.length = names.arity? name := by
  unfold Describe at describe
  unfold Tracker.parametersOf? Names.arity?
  generalize names.frames = frames, tracker.chain = scopes at describe
  induction describe with
  | nil => rfl
  | @cons frame scope _ _ first _ ih =>
    rw [List.findSome?_cons, List.findSome?_cons, ← first.functions name]
    cases scope.functions.get? name with
    | none => exact ih
    | some parameters => rfl

theorem addParameters {s : Parser.State} (describe : names.Describe s.scopes)
    (parameters : List String) :
    (parameters.foldl Names.addVariable names).Describe (Parser.Command.applyAll
      (parameters.map fun parameter => .scope (.declareVariable parameter none)) s).scopes := by
  induction parameters generalizing names s with
  | nil => exact describe
  | cons parameter others ih => exact ih (describe.addVariable parameter none)

theorem enter {s : Parser.State} (describe : names.Describe s.scopes) (parameters : List String) :
    (names.enter parameters).Describe
      (Parser.Command.applyAll (Parser.enterFunction parameters) s).scopes := by
  have entered : Names.Describe ⟨⟨[], []⟩, names.frames⟩ s.scopes.enter :=
    .cons ⟨fun _ => rfl, fun _ => rfl⟩ describe
  have declared := addParameters (s := (Parser.Command.scope .enter).apply s) entered parameters
  rw [foldl_addVariable, List.append_nil] at declared
  rw [Parser.enterFunction, Parser.applyAll_append]
  exact declared

end Describe

end Names

end DeskScript
