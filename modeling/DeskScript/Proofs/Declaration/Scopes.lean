import DeskScript.Proofs.Declaration.Basic
import DeskScript.Proofs.Grammar.Declaration
import DeskScript.Proofs.Parser.Tame

/-!
The scopes that a parse leaves hold what its tree declares. While statements are read, the current
scope grows by their declarations, in the order of the source, and all else about the scopes comes
back to what it was. Main statement: `scopes_declared`.
-/

namespace DeskScript

def Scope.declare (scope : Scope) : Declaration → Scope
  | .assigned target _ type =>
    { scope with variableTypes := scope.variableTypes.insert target type }
  | .defined name parameters =>
    { scope with functions := scope.functions.insert name parameters }
  | .ended => scope

def Tracker.declaring (tracker : Tracker) (declared : List Declaration) : Tracker :=
  tracker.modifyCurrent fun scope => declared.foldl Scope.declare scope

namespace Tracker

theorem modifyCurrent_modifyCurrent (tracker : Tracker) (f g : Scope → Scope) :
    (tracker.modifyCurrent f).modifyCurrent g = tracker.modifyCurrent fun scope => g (f scope) := by
  obtain ⟨global, nested, contexts⟩ := tracker
  cases nested <;> rfl

theorem declaring_concat (tracker : Tracker) (declared : List Declaration) (last : Declaration) :
    tracker.declaring (declared ++ [last]) =
      (tracker.declaring declared).modifyCurrent fun scope => scope.declare last := by
  rw [declaring, declaring, modifyCurrent_modifyCurrent]
  simp only [List.foldl_append, List.foldl_cons, List.foldl_nil]

theorem push_declaring (tracker : Tracker) (context : Context) (declared : List Declaration) :
    (tracker.push context).declaring declared = (tracker.declaring declared).push context := by
  obtain ⟨global, nested, contexts⟩ := tracker
  cases nested <;> rfl

theorem pop_push (tracker : Tracker) (context : Context) :
    ((tracker.push context).pop context).2 = tracker := by
  simp [pop, push]

end Tracker

namespace Parser

variable {α β : Type} {settings : Settings} {inner sub : Parser Node} {p q : Parser α}
variable {B : List Declaration} {E : α → List Declaration} {levels : Nat}

/-- Where `B` has been declared before, what a parser leaves behind if it succeeds is that `E` of
its value has been declared. -/
def Declared (B : List Declaration) (p : Parser α) (E : α → List Declaration) : Prop :=
  ∀ (base : Tracker) s a t, s.scopes = base.declaring B → p.run s = (.ok a, t) →
    t.scopes = base.declaring (E a)

namespace Declared

theorem pure {a : α} (same : B = E a) : Declared B (Pure.pure a) E := by
  intro base s b t before ran
  obtain ⟨rfl, rfl⟩ := run_pure_eq_ok.1 ran
  rw [before, same]

theorem fail (cause : Diagnostic.Cause) (line : Nat) : Declared B (fail cause line) E := by
  intro base s a t before ran
  simp at ran

theorem unexpected (what : Expectation) : Declared B (unexpected what) E := by
  intro base s a t before ran
  simp at ran

theorem bind {f : α → Parser β} {F : β → List Declaration} (hp : Declared B p E)
    (hf : ∀ a, Declared (E a) (f a) F) : Declared B (p >>= f) F := by
  intro base s b u before ran
  obtain ⟨a, t, first, second⟩ := run_bind_eq_ok.1 ran
  exact hf a base t b u (hp base s a t before first) second

theorem ite (c : Prop) [Decidable c] (hp : Declared B p E) (hq : Declared B q E) :
    Declared B (if c then p else q) E := by
  split
  · exact hp
  · exact hq

theorem tame (tame : Tame p) : Declared B p fun _ => B := by
  intro base s a t before ran
  have same := tame.scopes s
  rw [ran] at same
  exact same.trans before

theorem skip {f : α → Parser β} {F : β → List Declaration} (tame : Tame p)
    (hf : ∀ a, Declared B (f a) F) : Declared B (p >>= f) F :=
  (Declared.tame tame).bind hf

theorem quiet (tame : Tame p) (none : Yields (fun a => E a = []) p) :
    Declared B p fun a => B ++ E a := by
  intro base s a t before ran
  have nothing : E a = [] := none s a t ran
  dsimp only
  rw [nothing, List.append_nil]
  exact Declared.tame tame base s a t before ran

theorem change {made : Tracker.Change} (last : Declaration)
    (applies : ∀ tracker, made.apply tracker =
      tracker.modifyCurrent fun scope => scope.declare last) :
    Declared B (change made) fun _ => B ++ [last] := by
  intro base s a t before ran
  obtain ⟨-, rfl⟩ : () = a ∧ { s with scopes := made.apply s.scopes } = t := by simpa using ran
  dsimp only
  rw [applies, before, Tracker.declaring_concat]

theorem nested (hp : Declared B p E) : Declared B (nested settings p) E := by
  intro base s a t before ran
  obtain ⟨-, u, inside, rfl⟩ := run_nested_eq_ok.1 ran
  exact hp base (Command.deepen.apply s) a u before inside

theorem settled (hp : Declared B p E) : Declared B p.settled E :=
  fun base s a t before ran => hp base s a t before (run_settled_eq_ok.1 ran)

theorem inLoop (hp : Declared B p E) :
    Declared B (between [.scope (.push .loop)] p [.scope (.pop .loop)]) E := by
  intro base s a t before ran
  obtain ⟨u, inside, rfl⟩ := run_between_eq_ok.1 ran
  have pushed : s.scopes.push .loop = (base.push .loop).declaring B := by
    rw [before, Tracker.push_declaring]
  have after := hp (base.push .loop) _ a u pushed inside
  change (u.scopes.pop .loop).2 = _
  rw [after, Tracker.push_declaring, Tracker.pop_push]

theorem inFunction (balanced : ∀ s, Balanced (p.commands s)) (parameters : List String) :
    Declared B (between (enterFunction parameters) p leaveFunction) fun _ => B := by
  intro base s a t before ran
  have same := run_inFunction_scopes balanced parameters s
  rw [ran] at same
  exact same.trans before

end Declared

def Declares (L : α → List Declaration) (p : Parser α) : Prop :=
  ∀ B, Declared B p fun a => B ++ L a

abbrev DeclaresNode (p : Parser Node) : Prop :=
  Declares (Node.declarations false) p

theorem expression_declares (settings : Settings) (levels least : Nat) :
    DeclaresNode (expression settings levels least) := by
  intro B
  refine .quiet (tame_expression settings levels least) fun s node t ran => ?_
  exact (expression_yields settings levels least s node t ran).declarations_eq_nil false

theorem statementsUntil_declares (hsub : DeclaresNode sub) (closes : Token → Bool)
    (missing : Expectation) (read : List Node) (rounds : Nat) :
    Declared (B ++ Node.declarationsOf false read.reverse)
      (statementsUntil closes missing sub read rounds)
      fun all => B ++ Node.declarationsOf false all := by
  induction rounds generalizing read with
  | zero => exact .pure rfl
  | succ rounds ih =>
    refine .skip tame_current fun token => .ite _ (.pure rfl) ?_
    refine .ite _ (.unexpected _) ((hsub _).bind fun next => ?_)
    rw [List.append_assoc, ← Node.declarationsOf_concat, ← List.reverse_cons]
    exact ih _

theorem body_declares (hsub : DeclaresNode sub) (construct : Construct) (closers : List String) :
    Declares (fun body => Node.declarationsOf false body.statements)
      (body settings sub construct closers) := by
  intro B
  have statements (closes : Token → Bool) (missing : Expectation) :
      Declared B (statementsUntil closes missing sub [] settings.bound)
        fun all => B ++ Node.declarationsOf false all := by
    have all := statementsUntil_declares (B := B) hsub closes missing [] settings.bound
    rwa [List.reverse_nil, Node.declarationsOf, List.append_nil] at all
  refine .skip (tame_acceptOperator _) fun _ => .ite _ ?_ ?_
  · refine (statements _ _).bind fun all => ?_
    exact .skip tame_advance fun _ => .pure rfl
  · exact (statements _ _).bind fun all => .pure rfl

theorem closeBody_declares (L : List Node → List Declaration) (body : Body) :
    Declared (L body.statements) (closeBody body) L :=
  .ite _ (.pure rfl) (.skip tame_advance fun _ => .pure rfl)

theorem loopBody_declares (hsub : DeclaresNode sub) (construct : Construct) :
    Declares (Node.declarationsOf false) (loopBody settings sub construct) := by
  intro B
  refine (Declared.inLoop (body_declares hsub _ _ B)).bind fun body => ?_
  exact closeBody_declares (fun nodes => B ++ Node.declarationsOf false nodes) body

theorem assignment_declares (hinner : DeclaresNode inner) : DeclaresNode (assignment inner) := by
  intro B
  refine .skip tame_current fun token => .skip tame_advance fun _ => ?_
  refine .skip (tame_expectIdentifier _) fun target => ?_
  refine .skip tame_annotation? fun early => ?_
  refine .skip (tame_expectOperator _ _) fun _ => (hinner B).bind fun value => ?_
  refine .skip (tame_lateAnnotation? _ _) fun stated => ?_
  refine .skip tame_scopes fun tracker => ?_
  unfold declare
  split
  · exact .fail _ _
  · refine .skip (tame_note _) fun _ => ?_
    refine (Declared.change (.assigned target value _) fun _ => rfl).bind fun _ => ?_
    exact .pure (List.append_assoc _ _ _)

theorem functionDefinition_declares (balanced : ∀ s, Balanced (sub.commands s)) :
    DeclaresNode (functionDefinition settings sub) := by
  intro B
  refine .skip tame_advance fun _ => ?_
  refine .skip (tame_expectIdentifier _) fun name => ?_
  refine .skip (tame_expectOperator _ _) fun _ => ?_
  refine .skip (tame_parameterList name) fun parameters => ?_
  refine .skip (tame_expectOperator _ _) fun _ => ?_
  refine .skip (tame_note _) fun _ => ?_
  refine (Declared.change (.defined name parameters) fun _ => rfl).bind fun _ => ?_
  have inside := (closed_balanced settings).body balanced (.function name) ["ENDDEFUN"]
  refine (Declared.inFunction inside parameters).bind fun body => ?_
  refine (closeBody_declares (fun _ => B ++ [.defined name parameters]) body).bind fun nodes => ?_
  exact .pure rfl

theorem whileLoop_declares (hinner : DeclaresNode inner) (hsub : DeclaresNode sub) :
    DeclaresNode (whileLoop settings inner sub) := by
  intro B
  refine .skip tame_advance fun _ => (hinner B).bind fun condition => ?_
  exact (loopBody_declares hsub _ _).bind fun nodes => .pure (List.append_assoc _ _ _)

theorem repeatLoop_declares (hinner : DeclaresNode inner) (hsub : DeclaresNode sub) :
    DeclaresNode (repeatLoop settings inner sub) := by
  intro B
  refine .skip tame_advance fun _ => (hinner B).bind fun count => ?_
  refine .skip (tame_expectKeyword _ _) fun _ => ?_
  exact (loopBody_declares hsub _ _).bind fun nodes => .pure (List.append_assoc _ _ _)

def branchDeclarations (branch : Node × Body) : List Declaration :=
  branch.1.declarations false ++ Node.declarationsOf false branch.2.statements

theorem branch_declares (hinner : DeclaresNode inner) (hsub : DeclaresNode sub) :
    Declares branchDeclarations (branch settings inner sub) := by
  intro B
  refine (hinner B).bind fun condition => .skip (tame_acceptKeyword _) fun _ => ?_
  exact (body_declares hsub _ _ _).bind fun body => .pure (List.append_assoc _ _ _)

theorem elseIfs_declares (hinner : DeclaresNode inner) (hsub : DeclaresNode sub)
    (read : List (Node × Body)) (rounds : Nat) :
    Declared (B ++ read.reverse.flatMap branchDeclarations) (elseIfs settings inner sub read rounds)
      fun all => B ++ all.flatMap branchDeclarations := by
  induction rounds generalizing read with
  | zero => exact .pure rfl
  | succ rounds ih =>
    refine .skip tame_acceptElseIf fun _ => .ite _ ?_ (.pure rfl)
    refine (branch_declares hinner hsub _).bind fun next => ?_
    have more := ih (next :: read)
    rwa [List.reverse_cons, List.flatMap_append, List.flatMap_singleton,
      ← List.append_assoc] at more

theorem elseBranch?_declares (hsub : DeclaresNode sub) :
    Declares (fun last => Node.declarationsOfBody false (last.map (·.statements)))
      (elseBranch? settings sub) := by
  intro B
  refine .skip (tame_acceptKeyword _) fun _ => .ite _ ?_ (.pure ?_)
  · exact (body_declares hsub _ _ B).bind fun body => .pure rfl
  · exact (List.append_nil B).symm

theorem ifStatement_declares (hinner : DeclaresNode inner) (hsub : DeclaresNode sub) :
    DeclaresNode (ifStatement settings inner sub) := by
  intro B
  refine .skip tame_advance fun _ => ?_
  have further : Declares (List.flatMap branchDeclarations)
      (elseIfs settings inner sub [] settings.bound) := by
    intro B
    simpa using elseIfs_declares hinner hsub [] settings.bound
  refine (branch_declares hinner hsub B).bind fun (condition, thenBody) => ?_
  refine (further _).bind fun others => (elseBranch?_declares hsub _).bind fun last => ?_
  refine .skip (tame_closeConditional _) fun _ => .pure ?_
  rw [Node.declarations, Node.inTurn_declarations]
  simp only [List.append_assoc, branchDeclarations]
  rfl

theorem controlStatement_declares (hinner : DeclaresNode inner) (control : Control) :
    DeclaresNode (controlStatement inner control) := by
  intro B
  refine .skip tame_current fun word => .skip tame_advance fun _ => ?_
  have value : Declared B (controlValue inner control word.line) fun value =>
      B ++ Node.declarationsOfOption false value := by
    refine .skip tame_current fun _ => .ite _ ?_ (.pure (List.append_nil B).symm)
    exact (hinner B).bind fun _ => .pure rfl
  refine value.bind fun value => .skip tame_scopes fun tracker => ?_
  exact .ite _ (.pure rfl) (.fail _ _)

theorem moveMouse_declares (hinner : DeclaresNode inner) : DeclaresNode (moveMouse inner) := by
  intro B
  refine .skip tame_advance fun _ => ?_
  refine .skip (tame_expectKeyword _ _) fun _ => ?_
  refine .skip (tame_expectKeyword _ _) fun _ => ?_
  refine .skip (tame_acceptOperator _) fun _ => (hinner B).bind fun x => ?_
  refine .skip (tame_expectOperator _ _) fun _ => (hinner _).bind fun y => ?_
  exact .skip (tame_closeCoordinates _) fun _ => .pure (List.append_assoc _ _ _)

theorem inputOperation_declares (operation : String) : DeclaresNode (inputOperation operation) := by
  intro B
  have nothing : B = B ++ [] := (List.append_nil B).symm
  refine .skip tame_advance fun _ => .skip (tame_acceptKeyword _) fun _ => .ite _ ?_ ?_
  · refine .skip tame_current fun token => ?_
    split
    · exact .skip tame_advance fun _ => .pure nothing
    · exact .unexpected _
  · refine .skip (tame_acceptKeyword _) fun _ => .ite _ ?_ (.unexpected _)
    refine .skip tame_current fun token => .ite _ ?_ (.unexpected _)
    exact .skip tame_advance fun _ => .pure nothing

theorem identifierStatement_declares (tame : Tame inner)
    (hinner : Yields (Node.Expression levels) inner) :
    DeclaresNode (identifierStatement settings inner) := by
  intro B
  refine .skip tame_current fun token => .skip tame_next? fun next => .ite _ ?_ (.ite _ ?_ ?_)
  · refine .skip tame_advance fun _ => .skip (tame_requireVariable _) fun _ => ?_
    refine .skip tame_current fun _ => .skip tame_advance fun _ => ?_
    exact .pure (List.append_nil B).symm
  · refine .skip tame_advance fun _ => .quiet (tame_call tame _) fun s node t ran => ?_
    exact (call_yields hinner _ s node t ran).declarations_eq_nil false
  · exact .fail _ _

theorem wordStatement_declares (hinner : DeclaresNode inner) (hsub : DeclaresNode sub)
    (balanced : ∀ s, Balanced (sub.commands s)) (token : Token) (word : String) :
    DeclaresNode (wordStatement settings inner sub token word) := by
  intro B
  have valued {make : Node → Node}
      (plain : ∀ node, (make node).declarations false = node.declarations false) :
      Declared B (do advance; let value ← inner; return make value) fun node =>
        B ++ node.declarations false :=
    .skip tame_advance fun _ => (hinner B).bind fun value => .pure (by rw [plain])
  unfold wordStatement
  split
  · exact controlStatement_declares hinner _ B
  · split
    case h_1 => exact assignment_declares hinner B
    case h_2 => exact functionDefinition_declares balanced B
    case h_3 | h_4 | h_5 => exact valued fun _ => rfl
    case h_6 => exact moveMouse_declares hinner B
    case h_7 | h_8 | h_9 => exact inputOperation_declares _ B
    case h_10 => exact ifStatement_declares hinner hsub B
    case h_11 => exact whileLoop_declares hinner hsub B
    case h_12 => exact repeatLoop_declares hinner hsub B
    case h_13 => exact .skip tame_advance fun _ => .pure (List.append_nil B).symm
    case h_14 => exact .fail _ _

theorem statement_declares (settings : Settings) (levels : Nat) :
    DeclaresNode (statement settings levels) := by
  induction levels with
  | zero => exact fun B => .skip tame_current fun _ => .fail _ _
  | succ levels ih =>
    have plain : DeclaresNode
        (unterminated settings (expression settings levels 1) (statement settings levels)) := by
      intro B
      refine .skip tame_current fun token => ?_
      split
      · refine .skip tame_current fun token => .skip (tame_note _) fun _ => ?_
        exact wordStatement_declares (expression_declares settings levels 1) ih
          (statement_balanced settings levels) token _ B
      · exact identifierStatement_declares (tame_expression settings levels 1)
          (expression_yields settings levels 1) B
      · refine .ite _ (.quiet tame_updateBefore fun s node t ran => ?_) (.unexpected _)
        -- an update is an expression, and those declare nothing
        have update : node.Expression 1 := updateBefore_yields s node t ran
        exact update.declarations_eq_nil false
      · exact .unexpected _
    intro B
    refine .nested (.skip (tame_acceptOperator _) fun _ => .ite _ ?_ ?_)
    · exact .pure (List.append_nil B).symm
    · exact (plain B).bind fun node => .skip (tame_acceptOperator _) fun _ => .pure rfl

theorem topLevel_declares (hsub : DeclaresNode sub) (read : List Node) (rounds : Nat) :
    Declared (B ++ Node.declarationsOf false read.reverse) (topLevel sub read rounds)
      fun all => B ++ Node.declarationsOf false all := by
  induction rounds generalizing read with
  | zero => exact .pure rfl
  | succ rounds ih =>
    refine .skip tame_current fun token => .ite _ (.pure rfl) ?_
    refine (hsub _).settled.bind fun next => ?_
    rw [List.append_assoc, ← Node.declarationsOf_concat, ← List.reverse_cons]
    exact ih _

theorem program_declares (settings : Settings) (levels count : Nat) :
    Declared [] (program settings levels count) (Node.declarations false) := by
  have all := topLevel_declares (B := []) (statement_declares settings levels) [] settings.bound
  refine .skip (tame_note _) fun _ => all.bind fun nodes => ?_
  exact .skip (tame_note _) fun _ => .pure rfl

end Parser

namespace Declaration

def typeOf? (name : String) : Declaration → Option (Option String)
  | .assigned target _ type => if target = name then some type else none
  | _ => none

def parametersOf? (name : String) : Declaration → Option (List String)
  | .defined function parameters => if function = name then some parameters else none
  | _ => none

theorem typeOf?_eq_some {declaration : Declaration} {name : String} {type : Option String} :
    declaration.typeOf? name = some type ↔ ∃ value, declaration = .assigned name value type := by
  cases declaration <;> simp [typeOf?]

theorem parametersOf?_eq_some {declaration : Declaration} {name : String}
    {parameters : List String} :
    declaration.parametersOf? name = some parameters ↔ declaration = .defined name parameters := by
  cases declaration <;> simp [parametersOf?]

theorem typeOf?_eq_none {declared : List Declaration} {name : String} :
    (∀ declaration ∈ declared, declaration.typeOf? name = none) ↔
      ∀ value type, .assigned name value type ∉ declared := by
  simp only [Option.eq_none_iff_forall_ne_some, ne_eq, typeOf?_eq_some]
  constructor
  · intro none value type mem
    exact none _ mem type ⟨value, rfl⟩
  · rintro none declaration mem type ⟨value, rfl⟩
    exact none value type mem

theorem parametersOf?_eq_none {declared : List Declaration} {name : String} :
    (∀ declaration ∈ declared, declaration.parametersOf? name = none) ↔
      ∀ parameters, .defined name parameters ∉ declared := by
  simp only [Option.eq_none_iff_forall_ne_some, ne_eq, parametersOf?_eq_some]
  constructor
  · intro none parameters mem
    exact none _ mem parameters rfl
  · rintro none declaration mem parameters rfl
    exact none parameters mem

theorem findSome?_reverse_eq_some {α : Type} {f : Declaration → Option α}
    {declared : List Declaration} {a : α} :
    declared.reverse.findSome? f = some a ↔
      ∃ before last after, declared = before ++ last :: after ∧ f last = some a ∧
        ∀ declaration ∈ after, f declaration = none := by
  rw [List.findSome?_eq_some_iff]
  constructor
  · rintro ⟨after, last, before, split, found, none⟩
    refine ⟨before.reverse, last, after.reverse, ?_, found, by simpa using none⟩
    rw [← List.reverse_reverse declared, split]
    simp
  · rintro ⟨before, last, after, rfl, found, none⟩
    exact ⟨after.reverse, last, before.reverse, by simp, found, by simpa using none⟩

end Declaration

namespace Scope

theorem foldl_declare {α : Type} {told : Declaration → Option α} (get : Scope → Option α)
    (step : ∀ scope first, get (declare scope first) = (told first).or (get scope))
    (declared : List Declaration) (scope : Scope) :
    get (declared.foldl declare scope) = (declared.reverse.findSome? told).or (get scope) := by
  induction declared generalizing scope with
  | nil => rfl
  | cons first others ih =>
    rw [List.foldl_cons, ih, step, List.reverse_cons, List.findSome?_append, Option.or_assoc,
      List.findSome?_singleton]

theorem variableTypes_foldl (declared : List Declaration) (scope : Scope) (name : String) :
    (declared.foldl declare scope).variableTypes.get? name =
      (declared.reverse.findSome? (·.typeOf? name)).or (scope.variableTypes.get? name) := by
  refine foldl_declare (·.variableTypes.get? name) ?_ declared scope
  intro scope first
  cases first with
  | assigned target value type =>
    simp only [declare, Table.get?_insert, Declaration.typeOf?]
    by_cases same : name = target <;> simp [same, eq_comm]
  | defined | ended => rfl

theorem functions_foldl (declared : List Declaration) (scope : Scope) (name : String) :
    (declared.foldl declare scope).functions.get? name =
      (declared.reverse.findSome? (·.parametersOf? name)).or (scope.functions.get? name) := by
  refine foldl_declare (·.functions.get? name) ?_ declared scope
  intro scope first
  cases first with
  | defined function parameters =>
    simp only [declare, Table.get?_insert, Declaration.parametersOf?]
    by_cases same : name = function <;> simp [same, eq_comm]
  | assigned | ended => rfl

theorem variableTypes_eq_some {declared : List Declaration} {name : String}
    {type : Option String} :
    (declared.foldl declare empty).variableTypes.get? name = some type ↔
      ∃ before value after, declared = before ++ .assigned name value type :: after ∧
        ∀ value type, .assigned name value type ∉ after := by
  have nothing : empty.variableTypes.get? name = none := rfl
  rw [variableTypes_foldl, nothing, Option.or_none, Declaration.findSome?_reverse_eq_some]
  constructor
  · rintro ⟨before, last, after, split, found, none⟩
    obtain ⟨value, rfl⟩ := Declaration.typeOf?_eq_some.1 found
    exact ⟨before, value, after, split, Declaration.typeOf?_eq_none.1 none⟩
  · rintro ⟨before, value, after, split, none⟩
    exact ⟨before, _, after, split, Declaration.typeOf?_eq_some.2 ⟨value, rfl⟩,
      Declaration.typeOf?_eq_none.2 none⟩

theorem functions_eq_some {declared : List Declaration} {name : String}
    {parameters : List String} :
    (declared.foldl declare empty).functions.get? name = some parameters ↔
      ∃ before after, declared = before ++ .defined name parameters :: after ∧
        ∀ parameters, .defined name parameters ∉ after := by
  have nothing : empty.functions.get? name = none := rfl
  rw [functions_foldl, nothing, Option.or_none, Declaration.findSome?_reverse_eq_some]
  constructor
  · rintro ⟨before, last, after, split, found, none⟩
    obtain rfl := Declaration.parametersOf?_eq_some.1 found
    exact ⟨before, after, split, Declaration.parametersOf?_eq_none.1 none⟩
  · rintro ⟨before, after, split, none⟩
    exact ⟨before, _, after, split, Declaration.parametersOf?_eq_some.2 rfl,
      Declaration.parametersOf?_eq_none.2 none⟩

end Scope

namespace Parser

/--
After tokens are accepted only the global scope is open. Its variables are those that an assignment
of the tree outside of all functions names, with the type of the last such assignment, and its
functions are those that are defined outside of all functions, with the parameters of the last such
definition.
-/
theorem scopes_declared (options : Options) (tokens : List Token) (ast : Node)
    (accepted : (parse options tokens).result = .ok ast) :
    (parse options tokens).scopes.nested = [] ∧ (parse options tokens).scopes.contexts = [] ∧
      (∀ name type, (parse options tokens).scopes.global.variableTypes.get? name = some type ↔
        ∃ before value after,
          ast.declarations false = before ++ .assigned name value type :: after ∧
            ∀ value type, .assigned name value type ∉ after) ∧
      ∀ name parameters,
        (parse options tokens).scopes.global.functions.get? name = some parameters ↔
          ∃ before after,
            ast.declarations false = before ++ .defined name parameters :: after ∧
              ∀ parameters, .defined name parameters ∉ after := by
  have ran : (reader defaultLimit options tokens).run (start .initial tokens) = (.ok ast, _) :=
    Prod.ext accepted rfl
  have scopes : (parse options tokens).scopes =
      Tracker.initial.declaring (ast.declarations false) :=
    program_declares _ _ _ .initial _ ast _ rfl ran
  rw [scopes]
  exact ⟨rfl, rfl, fun _ _ => Scope.variableTypes_eq_some, fun _ _ => Scope.functions_eq_some⟩

theorem scopes_declared_shadowed :
    (parse .none
      [⟨.keyword, some "DEFUN", 1⟩, ⟨.identifier, some "f", 1⟩, ⟨.operator, some "(", 1⟩,
        ⟨.identifier, some "a", 1⟩, ⟨.operator, some ")", 1⟩, ⟨.operator, some "\x7b", 1⟩,
        ⟨.keyword, some "SET", 1⟩, ⟨.identifier, some "c", 1⟩, ⟨.operator, some "=", 1⟩,
        ⟨.integer, some "1", 1⟩, ⟨.operator, some "\x7d", 1⟩, ⟨.keyword, some "SET", 2⟩,
        ⟨.identifier, some "c", 2⟩, ⟨.operator, some "=", 2⟩, ⟨.integer, some "2", 2⟩,
        ⟨.operator, some ":", 2⟩, ⟨.identifier, some "int", 2⟩]).scopes.global.variableTypes.get?
      "c" = some (some "INT") := by
  have declared := scopes_declared .none
    [⟨.keyword, some "DEFUN", 1⟩, ⟨.identifier, some "f", 1⟩, ⟨.operator, some "(", 1⟩,
      ⟨.identifier, some "a", 1⟩, ⟨.operator, some ")", 1⟩, ⟨.operator, some "\x7b", 1⟩,
      ⟨.keyword, some "SET", 1⟩, ⟨.identifier, some "c", 1⟩, ⟨.operator, some "=", 1⟩,
      ⟨.integer, some "1", 1⟩, ⟨.operator, some "\x7d", 1⟩, ⟨.keyword, some "SET", 2⟩,
      ⟨.identifier, some "c", 2⟩, ⟨.operator, some "=", 2⟩, ⟨.integer, some "2", 2⟩,
      ⟨.operator, some ":", 2⟩, ⟨.identifier, some "int", 2⟩]
    (.program [.functionDefinition "f" ["a"] [.assignment "c" (.integer 1) none],
      .assignment "c" (.integer 2) (some "INT")]) rfl
  exact (declared.2.2.1 "c" (some "INT")).2
    ⟨[.defined "f" ["a"]], .integer 2, [], rfl, fun _ _ => List.not_mem_nil⟩

end Parser

end DeskScript
