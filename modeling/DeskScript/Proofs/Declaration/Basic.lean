import DeskScript.Proofs.Parser.Values

/-!
What a tree declares, told from the tree alone and in the order of the source. `declarations` looks
into every part of a tree, conditions and values included, although only statements declare
anything in the trees that scripts give rise to.
-/

namespace DeskScript

/-- What is met on the way through a tree: declarations, and the ends of functions. -/
inductive Declaration where
  | assigned (target : String) (value : Node) (type : Option String)
  | defined (name : String) (parameters : List String)
  | ended

namespace Declaration

def inTurn : List (List Declaration) → List (List Declaration) → List Declaration
  | first :: firsts, second :: seconds => first ++ (second ++ inTurn firsts seconds)
  | [], seconds => seconds.flatten
  | firsts, [] => firsts.flatten

end Declaration

namespace Node

open Declaration (inTurn)

mutual

/--
The declarations in a tree. The ones inside of functions, and where these end, are among them only
if they are asked for.
-/
def declarations (inside : Bool) : Node → List Declaration
  | .program nodes | .functionCall _ nodes => declarationsOf inside nodes
  | .functionDefinition name parameters body =>
    .defined name parameters :: if inside then declarationsOf inside body ++ [.ended] else []
  | .assignment target value type => declarations inside value ++ [.assigned target value type]
  | .printStatement _ node | .waitStatement node => declarations inside node
  | .moveMouse first second | .binaryOperation _ first second =>
    declarations inside first ++ declarations inside second
  | .whileLoop first body | .repeatLoop first body =>
    declarations inside first ++ declarationsOf inside body
  | .controlStatement _ value => declarationsOfOption inside value
  | .ifStatement condition thenBody conditions bodies elseBody =>
    declarations inside condition ++ (declarationsOf inside thenBody ++
      (inTurn (declarationsOfEach inside conditions) (declarationsOfBodies inside bodies) ++
        declarationsOfBody inside elseBody))
  | .keyOperation .. | .buttonOperation _ | .identifier _ | .integer _ | .float _ | .time ..
  | .string _ | .emptyStatement | .boolean _ | .update .. => []

def declarationsOf (inside : Bool) : List Node → List Declaration
  | [] => []
  | node :: nodes => declarations inside node ++ declarationsOf inside nodes

def declarationsOfEach (inside : Bool) : List Node → List (List Declaration)
  | [] => []
  | node :: nodes => declarations inside node :: declarationsOfEach inside nodes

def declarationsOfBodies (inside : Bool) : List (List Node) → List (List Declaration)
  | [] => []
  | body :: bodies => declarationsOf inside body :: declarationsOfBodies inside bodies

def declarationsOfOption (inside : Bool) : Option Node → List Declaration
  | none => []
  | some node => declarations inside node

def declarationsOfBody (inside : Bool) : Option (List Node) → List Declaration
  | none => []
  | some body => declarationsOf inside body

end

variable {inside : Bool} {levels : Nat}

theorem declarationsOf_concat (inside : Bool) (nodes : List Node) (last : Node) :
    declarationsOf inside (nodes ++ [last]) =
      declarationsOf inside nodes ++ last.declarations inside := by
  induction nodes with
  | nil => simp [declarationsOf]
  | cons node nodes ih => simp [declarationsOf, ih]

theorem declarationsOf_eq_nil {nodes : List Node}
    (none : ∀ node ∈ nodes, node.declarations inside = []) : declarationsOf inside nodes = [] := by
  induction nodes with
  | nil => rfl
  | cons node nodes ih =>
    obtain ⟨first, others⟩ := List.forall_mem_cons.1 none
    rw [declarationsOf, first, ih others, List.append_nil]

theorem Expression.declarations_eq_nil {node : Node} (expression : node.Expression levels)
    (inside : Bool) : node.declarations inside = [] := by
  induction expression with
  | @literal _ node literal => cases node <;> first | rfl | simp [isLiteral] at literal
  | identifier | update => rfl
  | call _ ih => exact declarationsOf_eq_nil ih
  | enclosed _ ih => exact ih
  | operation _ _ hleft hright => rw [declarations, hleft, hright, List.append_nil]

theorem inTurn_declarations {α : Type} (branches : List α) (condition : α → Node)
    (body : α → List Node) :
    inTurn (declarationsOfEach inside (branches.map condition))
        (declarationsOfBodies inside (branches.map body)) =
      branches.flatMap fun branch =>
        (condition branch).declarations inside ++ declarationsOf inside (body branch) := by
  induction branches with
  | nil => rfl
  | cons branch branches ih =>
    rw [List.map_cons, List.map_cons, declarationsOfEach, declarationsOfBodies, inTurn, ih,
      List.flatMap_cons, List.append_assoc]

end Node

end DeskScript
