import DeskScript.Proofs.Scope

/-!
A tracker against the history of what was done with it. A stretch of operations that closes what
it opens, run in a scope of its own, leaves the scopes around it as they were; and after any part
of it a name stands for what it was registered with last in the innermost scope that is still open
and has it. Main statement: `bracketed`.
-/

namespace DeskScript.Tracker

inductive Operation where
  | change (made : Change)
  | look
  deriving DecidableEq, Repr

namespace Operation

def apply : Operation → Tracker → Tracker
  | .change made, tracker => made.apply tracker
  | .look, tracker => tracker

def needed : Operation → Nat → Nat
  | .change .enter, left => left - 1
  | .change .exit, left => left + 1
  | _, left => left

def revise : Operation → Scope → Scope
  | .change (.declareVariable name type), scope =>
    { scope with variableTypes := scope.variableTypes.insert name type }
  | .change (.declareFunction name parameters), scope =>
    { scope with functions := scope.functions.insert name parameters }
  | _, scope => scope

end Operation

def run (operations : List Operation) (tracker : Tracker) : Tracker :=
  operations.foldl (fun tracker operation => operation.apply tracker) tracker

def opens (operations : List Operation) : Nat :=
  operations.count (.change .enter)

def closes (operations : List Operation) : Nat :=
  operations.count (.change .exit)

/-- At no point more scopes have been closed than opened, so that none that was open before is. -/
def Contained (operations : List Operation) : Prop :=
  ∀ start, start <+: operations → closes start ≤ opens start

def Bracketed (operations : List Operation) : Prop :=
  Contained operations ∧ opens operations = closes operations

/-- How many of the scopes that were open before are closed. -/
def fallen (operations : List Operation) : Nat :=
  operations.foldr Operation.needed 0

variable {operations later rest : List Operation} {operation : Operation} {tracker : Tracker}

theorem opens_append (first second : List Operation) :
    opens (first ++ second) = opens first + opens second :=
  List.count_append

theorem closes_append (first second : List Operation) :
    closes (first ++ second) = closes first + closes second :=
  List.count_append

theorem fallen_cons (operation : Operation) (operations : List Operation) :
    fallen (operation :: operations) = operation.needed (fallen operations) :=
  rfl

theorem fallen_le_iff {before : Nat} :
    fallen operations ≤ before ↔
      ∀ start, start <+: operations → closes start ≤ opens start + before := by
  induction operations generalizing before with
  | nil => simp [fallen, opens, closes]
  | cons operation operations ih =>
    -- every start but the empty one begins with the first operation
    have starts : (∀ start, start <+: operation :: operations →
        closes start ≤ opens start + before) ↔
        ∀ start, start <+: operations → closes [operation] + closes start ≤
          opens [operation] + opens start + before := by
      simp only [List.prefix_cons_iff, ← closes_append, ← opens_append, List.singleton_append]
      constructor
      · exact fun all start inside => all _ (.inr ⟨start, rfl, inside⟩)
      · rintro all start (rfl | ⟨start, rfl, inside⟩)
        · exact Nat.zero_le _
        · exact all start inside
    rw [starts, fallen_cons]
    cases operation with
    | look => simpa [Operation.needed, opens, closes] using ih
    | change made =>
      cases made with
      | enter =>
        have one : opens [.change .enter] = 1 ∧ closes [.change .enter] = 0 := by decide
        rw [Operation.needed, Nat.sub_le_iff_le_add, ih, one.1, one.2]
        exact forall₂_congr fun start _ => by omega
      | exit =>
        have one : opens [.change .exit] = 0 ∧ closes [.change .exit] = 1 := by decide
        rw [Operation.needed, one.1, one.2]
        cases before with
        | zero => simpa using ⟨[], List.nil_prefix, by decide⟩
        | succ before =>
          rw [Nat.succ_le_succ_iff, ih]
          exact forall₂_congr fun start _ => by omega
      | _ => simpa [Operation.needed, opens, closes] using ih

theorem contained_iff : Contained operations ↔ fallen operations = 0 := by
  rw [← Nat.le_zero, fallen_le_iff]
  rfl

instance : DecidablePred Contained := fun _ => decidable_of_iff _ contained_iff.symm

instance : DecidablePred Bracketed := fun operations =>
  inferInstanceAs (Decidable (Contained operations ∧ opens operations = closes operations))

theorem apply_cases (operation : Operation) (tracker : Tracker) :
    operation = .change .enter ∨ operation = .change .exit ∨
      (operation.needed = id ∧ opens [operation] = 0 ∧ closes [operation] = 0 ∧
        (operation.apply tracker).global = (tracker.modifyCurrent operation.revise).global ∧
        (operation.apply tracker).nested = (tracker.modifyCurrent operation.revise).nested) := by
  obtain ⟨global, nested, contexts⟩ := tracker
  cases operation with
  | look => cases nested <;> exact .inr (.inr ⟨rfl, rfl, rfl, rfl, rfl⟩)
  | change made =>
    cases made with
    | enter => exact .inl rfl
    | exit => exact .inr (.inl rfl)
    | declareVariable => exact .inr (.inr ⟨rfl, rfl, rfl, rfl, rfl⟩)
    | declareFunction => exact .inr (.inr ⟨rfl, rfl, rfl, rfl, rfl⟩)
    | push => cases nested <;> exact .inr (.inr ⟨rfl, rfl, rfl, rfl, rfl⟩)
    | pop context =>
      refine .inr (.inr ⟨rfl, rfl, rfl, ?_⟩)
      change ((Tracker.mk global nested contexts).pop context).2.global = _ ∧
        ((Tracker.mk global nested contexts).pop context).2.nested = _
      unfold pop
      repeat' split
      all_goals cases nested <;> exact ⟨rfl, rfl⟩

theorem apply_inner {inner outer : List Scope} {left : Nat}
    (nested : tracker.nested = inner ++ outer) (enough : operation.needed left < inner.length) :
    ∃ inner', (operation.apply tracker).nested = inner' ++ outer ∧
      (operation.apply tracker).global = tracker.global ∧ left < inner'.length ∧
      inner'.length + closes [operation] = inner.length + opens [operation] := by
  obtain ⟨global, nested', contexts⟩ := tracker
  obtain rfl : nested' = inner ++ outer := nested
  rcases inner with - | ⟨scope, inner⟩
  · exact absurd enough (Nat.not_lt_zero _)
  rcases apply_cases operation ⟨global, scope :: inner ++ outer, contexts⟩ with
    rfl | rfl | ⟨same, opened, closed, kept, revised⟩
  · refine ⟨.empty :: scope :: inner, rfl, rfl, ?_, rfl⟩
    exact Nat.lt_succ_of_le (Nat.le_add_of_sub_le (Nat.le_of_lt_succ enough))
  · exact ⟨inner, rfl, rfl, Nat.lt_of_succ_lt_succ enough, rfl⟩
  · rw [same] at enough
    exact ⟨operation.revise scope :: inner, revised, kept, enough, by rw [opened, closed]; rfl⟩

theorem run_inner {inner outer : List Scope} (nested : tracker.nested = inner ++ outer)
    (enough : fallen operations < inner.length) :
    ∃ inner', (run operations tracker).nested = inner' ++ outer ∧
      (run operations tracker).global = tracker.global ∧
      inner'.length + closes operations = inner.length + opens operations := by
  induction operations generalizing tracker inner with
  | nil => exact ⟨inner, nested, rfl, rfl⟩
  | cons operation operations ih =>
    obtain ⟨first, nested, global, enough, length⟩ := apply_inner nested enough
    obtain ⟨second, nested, global', length'⟩ := ih nested enough
    refine ⟨second, nested, global'.trans global, ?_⟩
    have opened := opens_append [operation] operations
    have closed := closes_append [operation] operations
    simp only [List.singleton_append] at opened closed
    omega

theorem exit_run_enter (tracker : Tracker) (bracketed : Bracketed operations) :
    (run operations tracker.enter).exit.1 = true ∧
      (run operations tracker.enter).exit.2.global = tracker.global ∧
      (run operations tracker.enter).exit.2.nested = tracker.nested := by
  have enough : fallen operations < [Scope.empty].length := by
    rw [contained_iff.1 bracketed.1]
    exact Nat.one_pos
  have start : tracker.enter.nested = [.empty] ++ tracker.nested := rfl
  obtain ⟨inner, nested, global, length⟩ := run_inner start enough
  obtain ⟨scope, rfl⟩ : ∃ scope, inner = [scope] := by
    rw [← List.length_eq_one_iff]
    have same := bracketed.2
    simp only [List.length_singleton] at length
    omega
  rw [exit, nested]
  exact ⟨rfl, global, rfl⟩

variable {α : Type} {registered : Operation → Option α} {own : Scope → Option α}

structure Registry (registered : Operation → Option α) (own : Scope → Option α) : Prop where
  empty : own .empty = none
  revise (operation : Operation) (scope : Scope) :
    own (operation.revise scope) = (registered operation).or (own scope)

theorem Registry.registered_eq_none (registry : Registry registered own)
    (same : operation.revise = id) : registered operation = none := by
  have revised := registry.revise operation .empty
  rw [same, id, registry.empty, Option.or_none] at revised
  exact revised.symm

/-- The last registration in a history of which the scope is still open. -/
def latest? (registered : Operation → Option α) : List Operation → Option α
  | [] => none
  | operation :: rest =>
    (latest? registered rest).or (if fallen rest = 0 then registered operation else none)

theorem findSome?_apply (registry : Registry registered own) {left : Nat}
    (enough : operation.needed left ≤ tracker.depth) :
    left ≤ (operation.apply tracker).depth ∧
      ((operation.apply tracker).chain.drop left).findSome? own =
        (if left = 0 then registered operation else none).or
          ((tracker.chain.drop (operation.needed left)).findSome? own) := by
  obtain ⟨global, nested, contexts⟩ := tracker
  -- a new scope declares nothing, a closed one is not looked at, a revised one is the current one
  rcases apply_cases operation ⟨global, nested, contexts⟩ with
    rfl | rfl | ⟨same, -, -, kept, revised⟩
  · rw [registry.registered_eq_none rfl, ite_self, Option.none_or]
    refine ⟨Nat.le_add_of_sub_le enough, ?_⟩
    cases left with
    | zero => exact List.findSome?_cons_of_isNone (Option.isNone_iff_eq_none.2 registry.empty)
    | succ left => rfl
  · rw [registry.registered_eq_none rfl, ite_self, Option.none_or]
    cases nested with
    | nil => exact absurd enough (Nat.not_succ_le_zero left)
    | cons scope nested => exact ⟨Nat.le_of_succ_le_succ enough, rfl⟩
  · rw [same, id] at enough ⊢
    rw [chain, depth, kept, revised]
    cases nested with
    | nil =>
      obtain rfl : left = 0 := Nat.le_zero.1 enough
      exact ⟨Nat.le_refl _, by simp [modifyCurrent, chain, registry.revise]⟩
    | cons scope nested =>
      refine ⟨enough, ?_⟩
      cases left with
      | zero =>
        simp only [modifyCurrent, chain, List.drop_zero, List.cons_append, List.findSome?_cons,
          registry.revise]
        cases registered operation <;> rfl
      | succ left => rfl

theorem findSome?_run (registry : Registry registered own)
    (enough : fallen operations ≤ tracker.depth) :
    (run operations tracker).chain.findSome? own =
      (latest? registered operations).or
        ((tracker.chain.drop (fallen operations)).findSome? own) := by
  induction operations generalizing tracker with
  | nil => rfl
  | cons operation operations ih =>
    rw [fallen_cons] at enough ⊢
    obtain ⟨enough, first⟩ := findSome?_apply registry enough
    rw [latest?, Option.or_assoc, ← first]
    exact ih enough

/-- A registration of a value in a history, in a scope that is still open after what came later. -/
def Stands (registered : Operation → Option α) (history : List Operation) (value : α)
    (later : List Operation) : Prop :=
  ∃ earlier operation, history = earlier ++ operation :: later ∧
    registered operation = some value ∧ Contained later

def surplus (later : List Operation) : Nat :=
  opens later - closes later

/-- What a lookup has to find after a history: what the last registration says in the innermost
open scope that has one, where the scopes that were open before come last. -/
inductive Finds (registered : Operation → Option α) (own : Scope → Option α) (before : Tracker)
    (history : List Operation) : Option α → Prop where
  | registered {value : α} {later : List Operation} (here : Stands registered history value later)
    (first : ∀ other rest, Stands registered history other rest → surplus later < surplus rest ∨
      surplus later = surplus rest ∧ later.length ≤ rest.length) :
    Finds registered own before history (some value)
  | before (nowhere : ∀ value later, ¬ Stands registered history value later) :
    Finds registered own before history ((before.nested ++ [before.global]).findSome? own)

variable {value other : α}

theorem stands_cons_iff : Stands registered (operation :: operations) value later ↔
    Stands registered operations value later ∨
      later = operations ∧ registered operation = some value ∧ Contained later := by
  constructor
  · rintro ⟨earlier, last, split, here⟩
    cases earlier with
    | nil =>
      obtain ⟨rfl, rfl⟩ := List.cons.inj split
      exact .inr ⟨rfl, here⟩
    | cons first earlier => exact .inl ⟨earlier, last, (List.cons.inj split).2, here⟩
  · rintro (⟨earlier, last, rfl, here⟩ | ⟨rfl, here⟩)
    · exact ⟨operation :: earlier, last, rfl, here⟩
    · exact ⟨[], operation, rfl, here⟩

theorem Stands.suffix (here : Stands registered operations value later) : later <:+ operations := by
  obtain ⟨earlier, last, rfl, -⟩ := here
  exact (List.suffix_cons last later).trans (List.suffix_append earlier _)

theorem not_stands_of_latest? (nothing : latest? registered operations = none) (value : α)
    (later : List Operation) : ¬ Stands registered operations value later := by
  induction operations with
  | nil =>
    rintro ⟨earlier, last, split, -⟩
    exact List.append_ne_nil_of_right_ne_nil earlier (List.cons_ne_nil last later) split.symm
  | cons operation operations ih =>
    obtain ⟨nothing, here⟩ := Option.or_eq_none_iff.1 nothing
    rw [stands_cons_iff, not_or]
    refine ⟨ih nothing, ?_⟩
    rintro ⟨rfl, registers, contained⟩
    rw [if_pos (contained_iff.1 contained), registers] at here
    cases here

theorem stands_of_latest? (found : latest? registered operations = some value) :
    ∃ later, Stands registered operations value later ∧
      ∀ other rest, Stands registered operations other rest → later.length ≤ rest.length := by
  induction operations with
  | nil => cases found
  | cons operation operations ih =>
    simp only [stands_cons_iff]
    rcases Option.or_eq_some_iff.1 found with found | ⟨nothing, here⟩
    · obtain ⟨later, here, last⟩ := ih found
      refine ⟨later, .inl here, ?_⟩
      rintro other rest (inside | ⟨rfl, -⟩)
      · exact last other rest inside
      · exact here.suffix.length_le
    · obtain ⟨contained, registers⟩ := Option.ite_none_right_eq_some.1 here
      refine ⟨operations, .inr ⟨rfl, registers, contained_iff.2 contained⟩, ?_⟩
      rintro other rest (inside | ⟨rfl, -⟩)
      · exact absurd inside (not_stands_of_latest? nothing other rest)
      · exact Nat.le_refl _

theorem surplus_le_of_suffix (contained : Contained rest) (suffix : later <:+ rest) :
    surplus later ≤ surplus rest := by
  obtain ⟨front, rfl⟩ := suffix
  have closed := contained front (List.prefix_append front later)
  rw [surplus, surplus, opens_append, closes_append]
  omega

theorem finds_latest? (registered : Operation → Option α) (own : Scope → Option α)
    (before : Tracker) (history : List Operation) :
    Finds registered own before history
      ((latest? registered history).or ((before.nested ++ [before.global]).findSome? own)) := by
  cases found : latest? registered history with
  | none => exact .before (not_stands_of_latest? found)
  | some value =>
    obtain ⟨later, here, last⟩ := stands_of_latest? found
    refine .registered here fun other rest inside => ?_
    obtain ⟨-, -, -, -, contained⟩ := id inside
    have short := last other rest inside
    have suffix := List.suffix_of_suffix_length_le here.suffix inside.suffix short
    rcases Nat.lt_or_eq_of_le (surplus_le_of_suffix contained suffix) with less | same
    · exact .inl less
    · exact .inr ⟨same, short⟩

def Operation.typeFor? (name : String) : Operation → Option (Option String)
  | .change (.declareVariable other type) => if name = other then some type else none
  | _ => none

def Operation.parametersFor? (name : String) : Operation → Option (List String)
  | .change (.declareFunction other parameters) => if name = other then some parameters else none
  | _ => none

theorem registry_variables (name : String) :
    Registry (Operation.typeFor? name) (·.variableTypes.get? name) where
  empty := rfl
  revise operation scope := by
    cases operation with
    | look => rfl
    | change made =>
      cases made with
      | declareVariable target type =>
        change (scope.variableTypes.insert target type).get? name =
          (if name = target then some type else none).or (scope.variableTypes.get? name)
        rw [Table.get?_insert]
        split <;> rfl
      | _ => rfl

theorem registry_functions (name : String) :
    Registry (Operation.parametersFor? name) (·.functions.get? name) where
  empty := rfl
  revise operation scope := by
    cases operation with
    | look => rfl
    | change made =>
      cases made with
      | declareFunction target parameters =>
        change (scope.functions.insert target parameters).get? name =
          (if name = target then some parameters else none).or (scope.functions.get? name)
        rw [Table.get?_insert]
        split <;> rfl
      | _ => rfl

theorem finds_of_contained (registry : Registry registered own) (before : Tracker)
    {history : List Operation} (contained : Contained history) :
    Finds registered own before history ((run history before.enter).chain.findSome? own) := by
  have none := contained_iff.1 contained
  rw [findSome?_run registry (none ▸ Nat.zero_le _), none]
  have start : before.enter.chain.findSome? own =
      (before.nested ++ [before.global]).findSome? own :=
    List.findSome?_cons_of_isNone (Option.isNone_iff_eq_none.2 registry.empty)
  rw [List.drop_zero, start]
  exact finds_latest? registered own before history

theorem any_isSome (chain : List Scope) (own : Scope → Option α) :
    (chain.any fun scope => (own scope).isSome) = (chain.findSome? own).isSome := by
  rw [Bool.eq_iff_iff, List.any_eq_true, List.findSome?_isSome_iff]

/--
Operations that close what they open, run in a scope of its own, leave the global scope and the
nested ones as they were, and there is a scope to close after them. After any first part of them,
what is said of a name is what it was last registered with in the innermost scope that is still
open and has it, be it registered among the operations or before.
-/
theorem bracketed (before : Tracker) (operations : List Operation) (closed : Bracketed operations) :
    ((run operations before.enter).exit.1 = true ∧
      (run operations before.enter).exit.2.global = before.global ∧
      (run operations before.enter).exit.2.nested = before.nested) ∧
    ∀ history, history <+: operations → ∀ name,
      (∃ type?, Finds (Operation.typeFor? name) (·.variableTypes.get? name) before history type? ∧
        (run history before.enter).seesVariable name = type?.isSome ∧
        (run history before.enter).typeOf? name = type?.join) ∧
      ∃ parameters?,
        Finds (Operation.parametersFor? name) (·.functions.get? name) before history parameters? ∧
        (run history before.enter).seesFunction name = parameters?.isSome ∧
        (run history before.enter).parametersOf? name = parameters? := by
  refine ⟨exit_run_enter before closed, fun history part name => ?_⟩
  have contained : Contained history := fun start inside => closed.1 start (inside.trans part)
  exact ⟨⟨_, finds_of_contained (registry_variables name) before contained, any_isSome _ _, rfl⟩,
    _, finds_of_contained (registry_functions name) before contained, any_isSome _ _, rfl⟩

def typed : Tracker :=
  (initial.declareVariable "x" (some "INT")).enter.declareFunction "f" ["a"]

def shadowing : List Operation :=
  [.change (.push .loop), .change .enter, .change (.declareVariable "x" none), .look,
    .change .exit, .change (.declareFunction "f" [])]

/-- An untyped variable hides the typed one around it. -/
theorem bracketed_shadowed :
    Bracketed shadowing ∧ (run shadowing typed.enter).exit.1 = true ∧
      (run shadowing typed.enter).exit.2.nested = typed.nested ∧ typed.typeOf? "x" = some "INT" ∧
      Finds (Operation.typeFor? "x") (·.variableTypes.get? "x") typed (shadowing.take 4)
        (some none) ∧
      (run (shadowing.take 4) typed.enter).typeOf? "x" = none := by
  have closed : Bracketed shadowing := by decide
  obtain ⟨⟨exits, -, nested⟩, answers⟩ := bracketed typed shadowing closed
  obtain ⟨⟨type?, finds, sees, typeOf⟩, -⟩ := answers (shadowing.take 4) (List.take_prefix _ _) "x"
  have seen : (run (shadowing.take 4) typed.enter).seesVariable "x" = true := by decide
  have untyped : (run (shadowing.take 4) typed.enter).typeOf? "x" = none := by decide
  rw [seen] at sees
  rw [untyped] at typeOf
  obtain ⟨type, rfl⟩ := Option.isSome_iff_exists.1 sees.symm
  obtain rfl : none = type := typeOf
  exact ⟨closed, exits, nested, by decide, finds, untyped⟩

end DeskScript.Tracker
