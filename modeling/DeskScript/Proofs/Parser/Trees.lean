import DeskScript.Proofs.Parser.Values

/-!
Which trees are read as statements with so many levels, whatever tokens they are read from. Main
statements: `statement_yields` and `program_yields`.
-/

namespace DeskScript

/--
Trees that are read as statements with so many levels. The expressions of a statement and the
statements of its bodies stand one level down.
-/
inductive Node.Statement : (levels : Nat) → Node → Prop where
  | empty {levels : Nat} : Statement (levels + 1) .emptyStatement
  | key {levels : Nat} {operation key : String} :
    Statement (levels + 1) (.keyOperation operation key)
  | button {levels : Nat} {button : String} : Statement (levels + 1) (.buttonOperation button)
  | update {levels : Nat} {target operation : String} {before : Bool} :
    Statement (levels + 1) (.update target operation before)
  | call {levels : Nat} {function : String} {arguments : List Node} :
    (∀ node ∈ arguments, node.Expression levels) →
    Statement (levels + 1) (.functionCall function arguments)
  | assignment {levels : Nat} {target : String} {value : Node} {type : Option String} :
    value.Expression levels → Statement (levels + 1) (.assignment target value type)
  | print {levels : Nat} {form : String} {value : Node} :
    value.Expression levels → Statement (levels + 1) (.printStatement form value)
  | wait {levels : Nat} {value : Node} :
    value.Expression levels → Statement (levels + 1) (.waitStatement value)
  | move {levels : Nat} {x y : Node} :
    x.Expression levels → y.Expression levels → Statement (levels + 1) (.moveMouse x y)
  | control {levels : Nat} {control : Control} {value : Option Node} :
    (∀ node ∈ value, node.Expression levels) →
    Statement (levels + 1) (.controlStatement control value)
  | whileLoop {levels : Nat} {condition : Node} {body : List Node} :
    condition.Expression levels → (∀ node ∈ body, Statement levels node) →
    Statement (levels + 1) (.whileLoop condition body)
  | repeatLoop {levels : Nat} {count : Node} {body : List Node} :
    count.Expression levels → (∀ node ∈ body, Statement levels node) →
    Statement (levels + 1) (.repeatLoop count body)
  | function {levels : Nat} {name : String} {parameters : List String} {body : List Node} :
    (∀ node ∈ body, Statement levels node) →
    Statement (levels + 1) (.functionDefinition name parameters body)
  | conditional {levels : Nat} {condition : Node} {thenBody conditions : List Node}
      {bodies : List (List Node)} {elseBody : Option (List Node)} :
    condition.Expression levels → (∀ node ∈ thenBody, Statement levels node) →
    (∀ node ∈ conditions, node.Expression levels) →
    (∀ body ∈ bodies, ∀ node ∈ body, Statement levels node) →
    (∀ body ∈ elseBody, ∀ node ∈ body, Statement levels node) →
    Statement (levels + 1) (.ifStatement condition thenBody conditions bodies elseBody)

namespace Parser

open Node (Expression Statement)

variable {settings : Settings} {inner sub : Parser Node} {levels : Nat} {P : Node → Prop}

theorem statementsUntil_yields (hsub : Yields P sub) (closes : Token → Bool)
    (missing : Expectation) {read : List Node} (before : ∀ node ∈ read, P node) (rounds : Nat) :
    Yields (fun all => ∀ node ∈ all, P node) (statementsUntil closes missing sub read rounds) := by
  induction rounds generalizing read with
  | zero => exact .pure (by simpa using before)
  | succ rounds ih =>
    refine .after fun _ => .ite _ (.pure (by simpa using before)) (.ite _ (.unexpected _) ?_)
    exact hsub.bind fun next holds => ih (List.forall_mem_cons.2 ⟨holds, before⟩)

theorem body_yields (hsub : Yields P sub) (construct : Construct) (closers : List String) :
    Yields (fun body => ∀ node ∈ body.statements, P node)
      (body settings sub construct closers) := by
  have statements (closes : Token → Bool) (missing : Expectation) :=
    statementsUntil_yields hsub closes missing (List.forall_mem_nil _) settings.bound
  refine .after fun _ => .ite _ ?_ ?_
  · exact (statements _ _).bind fun all holds => .after fun _ => .pure holds
  · exact (statements _ _).bind fun all holds => .pure holds

theorem closeBody_yields {body : Body} (holds : ∀ node ∈ body.statements, P node) :
    Yields (fun all => ∀ node ∈ all, P node) (closeBody body) :=
  .ite _ (.pure holds) (.after fun _ => .pure holds)

theorem loopBody_yields (hsub : Yields P sub) (construct : Construct) :
    Yields (fun all => ∀ node ∈ all, P node) (loopBody settings sub construct) :=
  (Yields.between (body_yields hsub _ _)).bind fun _ holds => closeBody_yields holds

theorem assignment_yields (hinner : Yields (Expression levels) inner) :
    Yields (Statement (levels + 1)) (assignment inner) := by
  refine .after fun _ => .after fun _ => .after fun _ => .after fun _ => .after fun _ => ?_
  refine hinner.bind fun value holds => .after fun _ => .after fun _ => ?_
  unfold declare
  split
  · exact .fail _ _
  · exact .after fun _ => .after fun _ => .pure (.assignment holds)

theorem functionDefinition_yields (hsub : Yields (Statement levels) sub) :
    Yields (Statement (levels + 1)) (functionDefinition settings sub) := by
  refine .after fun _ => .after fun _ => .after fun _ => .after fun _ => ?_
  refine .after fun _ => .after fun _ => .after fun _ => ?_
  refine (Yields.between (body_yields hsub _ _)).bind fun body holds => ?_
  exact (closeBody_yields holds).bind fun nodes holds => .pure (.function holds)

theorem whileLoop_yields (hinner : Yields (Expression levels) inner)
    (hsub : Yields (Statement levels) sub) :
    Yields (Statement (levels + 1)) (whileLoop settings inner sub) := by
  refine .after fun _ => hinner.bind fun condition holds => ?_
  exact (loopBody_yields hsub _).bind fun nodes inside => .pure (.whileLoop holds inside)

theorem repeatLoop_yields (hinner : Yields (Expression levels) inner)
    (hsub : Yields (Statement levels) sub) :
    Yields (Statement (levels + 1)) (repeatLoop settings inner sub) := by
  refine .after fun _ => hinner.bind fun count holds => .after fun _ => ?_
  exact (loopBody_yields hsub _).bind fun nodes inside => .pure (.repeatLoop holds inside)

def BranchWithin (levels : Nat) (branch : Node × Body) : Prop :=
  branch.1.Expression levels ∧ ∀ node ∈ branch.2.statements, node.Statement levels

theorem branch_yields (hinner : Yields (Expression levels) inner)
    (hsub : Yields (Statement levels) sub) :
    Yields (BranchWithin levels) (branch settings inner sub) := by
  refine hinner.bind fun condition holds => .after fun _ => ?_
  exact (body_yields hsub _ _).bind fun body inside => .pure ⟨holds, inside⟩

theorem elseIfs_yields (hinner : Yields (Expression levels) inner)
    (hsub : Yields (Statement levels) sub) {read : List (Node × Body)}
    (before : ∀ branch ∈ read, BranchWithin levels branch) (rounds : Nat) :
    Yields (fun all => ∀ branch ∈ all, BranchWithin levels branch)
      (elseIfs settings inner sub read rounds) := by
  induction rounds generalizing read with
  | zero => exact .pure (by simpa using before)
  | succ rounds ih =>
    refine .after fun _ => .ite _ ?_ (.pure (by simpa using before))
    exact (branch_yields hinner hsub).bind fun next holds =>
      ih (List.forall_mem_cons.2 ⟨holds, before⟩)

theorem elseBranch?_yields (hsub : Yields (Statement levels) sub) :
    Yields (fun last => ∀ body ∈ last, ∀ node ∈ body.statements, node.Statement levels)
      (elseBranch? settings sub) := by
  refine .after fun _ => .ite _ ?_ (.pure (by simp))
  exact (body_yields hsub _ _).bind fun body holds => .pure (by simpa using holds)

theorem ifStatement_yields (hinner : Yields (Expression levels) inner)
    (hsub : Yields (Statement levels) sub) :
    Yields (Statement (levels + 1)) (ifStatement settings inner sub) := by
  refine .after fun _ => (branch_yields hinner hsub).bind fun first ⟨hcondition, hthen⟩ => ?_
  have none := List.forall_mem_nil (BranchWithin levels)
  refine (elseIfs_yields hinner hsub none _).bind fun others hothers => ?_
  refine (elseBranch?_yields hsub).bind fun last hlast => .after fun _ => .pure ?_
  have conditions : ∀ node ∈ others.map (·.1), node.Expression levels :=
    List.forall_mem_map.2 fun branch mem => (hothers branch mem).1
  have bodies : ∀ body ∈ others.map (·.2.statements), ∀ node ∈ body, node.Statement levels :=
    List.forall_mem_map.2 fun branch mem => (hothers branch mem).2
  exact .conditional hcondition hthen conditions bodies (by simpa using hlast)

theorem controlStatement_yields (hinner : Yields (Expression levels) inner) (control : Control) :
    Yields (Statement (levels + 1)) (controlStatement inner control) := by
  have value (line : Nat) : Yields (fun value => ∀ node ∈ value, node.Expression levels)
      (controlValue inner control line) := by
    refine .after fun _ => .ite _ ?_ (.pure (by simp))
    exact hinner.bind fun value holds => .pure (by simpa using holds)
  refine .after fun _ => .after fun _ => (value _).bind fun value holds => .after fun _ => ?_
  exact .ite _ (.pure (.control holds)) (.fail _ _)

theorem moveMouse_yields (hinner : Yields (Expression levels) inner) :
    Yields (Statement (levels + 1)) (moveMouse inner) := by
  refine .after fun _ => .after fun _ => .after fun _ => .after fun _ => ?_
  refine hinner.bind fun x hx => .after fun _ => hinner.bind fun y hy => .after fun _ => ?_
  exact .pure (.move hx hy)

theorem inputOperation_yields (operation : String) :
    Yields (Statement (levels + 1)) (inputOperation operation) := by
  refine .after fun _ => .after fun _ => .ite _ ?_ (.after fun _ => .ite _ ?_ (.unexpected _))
  · refine .after fun _ => ?_
    split
    · exact .after fun _ => .pure .key
    · exact .unexpected _
  · exact .after fun _ => .ite _ (.after fun _ => .pure .button) (.unexpected _)

theorem identifierStatement_yields (hinner : Yields (Expression levels) inner) :
    Yields (Statement (levels + 1)) (identifierStatement settings inner) := by
  refine .after fun _ => .after fun _ => .ite _ ?_ (.ite _ ?_ (.fail _ _))
  · exact .after fun _ => .after fun _ => .after fun _ => .after fun _ => .pure .update
  · refine .after fun _ => .after fun _ => .after fun _ => ?_
    refine (arguments_yields hinner).bind fun arguments holds => ?_
    exact .after fun _ => .after fun _ => .pure (.call holds)

theorem wordStatement_yields (hinner : Yields (Expression levels) inner)
    (hsub : Yields (Statement levels) sub) (token : Token) (word : String) :
    Yields (Statement (levels + 1)) (wordStatement settings inner sub token word) := by
  have valued {make : Node → Node}
      (around : ∀ value, value.Expression levels → (make value).Statement (levels + 1)) :
      Yields (Statement (levels + 1)) (do advance; let value ← inner; return make value) :=
    .after fun _ => hinner.bind fun value holds => .pure (around value holds)
  unfold wordStatement
  split
  · exact controlStatement_yields hinner _
  · split
    case h_1 => exact assignment_yields hinner
    case h_2 => exact functionDefinition_yields hsub
    case h_3 | h_4 => exact valued fun value holds => .print holds
    case h_5 => exact valued fun value holds => .wait holds
    case h_6 => exact moveMouse_yields hinner
    case h_7 | h_8 | h_9 => exact inputOperation_yields _
    case h_10 => exact ifStatement_yields hinner hsub
    case h_11 => exact whileLoop_yields hinner hsub
    case h_12 => exact repeatLoop_yields hinner hsub
    case h_13 => exact .after fun _ => .pure .empty
    case h_14 => exact .fail _ _

theorem unterminated_yields (hinner : Yields (Expression levels) inner)
    (hsub : Yields (Statement levels) sub) :
    Yields (Statement (levels + 1)) (unterminated settings inner sub) := by
  refine .after fun token => ?_
  split
  · exact .after fun _ => .after fun _ => wordStatement_yields hinner hsub _ _
  · exact identifierStatement_yields hinner
  · refine .ite _ ?_ (.unexpected _)
    exact .after fun _ => .after fun _ => .after fun _ => .after fun _ => .pure .update
  · exact .unexpected _

theorem statement_yields (settings : Settings) (levels : Nat) :
    Yields (Statement levels) (statement settings levels) := by
  induction levels with
  | zero => exact tooDeep_yields
  | succ levels ih =>
    have plain : Yields (Statement (levels + 1))
        (unterminated settings (expression settings levels 1) (statement settings levels)) :=
      unterminated_yields (expression_yields settings levels 1) ih
    refine .nested (.after fun _ => .ite _ (.pure .empty) ?_)
    exact plain.bind fun node holds => .after fun _ => .pure holds

theorem topLevel_yields (hsub : Yields P sub) {read : List Node} (before : ∀ node ∈ read, P node)
    (rounds : Nat) : Yields (fun all => ∀ node ∈ all, P node) (topLevel sub read rounds) := by
  induction rounds generalizing read with
  | zero => exact .pure (by simpa using before)
  | succ rounds ih =>
    refine .after fun _ => .ite _ (.pure (by simpa using before)) ?_
    exact hsub.settled.bind fun next holds => ih (List.forall_mem_cons.2 ⟨holds, before⟩)

theorem program_yields (settings : Settings) (levels count : Nat) :
    Yields (fun ast => ∃ nodes, ast = .program nodes ∧ ∀ node ∈ nodes, node.Statement levels)
      (program settings levels count) := by
  have statements := topLevel_yields (statement_yields settings levels) (List.forall_mem_nil _)
  refine .after fun _ => (statements _).bind fun nodes holds => ?_
  exact .after fun _ => .pure ⟨nodes, rfl, holds⟩

end Parser

end DeskScript
