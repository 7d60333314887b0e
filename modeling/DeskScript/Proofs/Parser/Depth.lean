import DeskScript.Proofs.Parser.Balance

/-!
The nesting depth in the course of a run: a level opens only below the limit and closes only if
one is open, so the depth stays between nothing and the limit.
-/

namespace DeskScript.Parser

variable {limit : Nat} {s : State} {given inside : List Command}

def Command.Allowed (limit : Nat) (s : State) : Command → Prop
  | .deepen => s.depth < limit
  | .rise => 0 < s.depth
  | .advance | .note _ | .scope _ => True

/-- All commands are allowed where they are given. -/
def Steady (limit : Nat) : State → List Command → Prop
  | _, [] => True
  | s, command :: rest => command.Allowed limit s ∧ Steady limit (command.apply s) rest

theorem steady_append (first second : List Command) (s : State) :
    Steady limit s (first ++ second) ↔
      Steady limit s first ∧ Steady limit (Command.applyAll first s) second := by
  induction first generalizing s with
  | nil => exact (true_and _).symm.to_iff
  | cons command rest ih => rw [List.cons_append, Steady, ih, Steady, and_assoc]; rfl

theorem steady_of_scope (still : ∀ command ∈ given, ∃ change, command = .scope change)
    (s : State) : Steady limit s given := by
  induction given generalizing s with
  | nil => trivial
  | cons command rest ih =>
    obtain ⟨⟨change, rfl⟩, others⟩ := List.forall_mem_cons.1 still
    exact ⟨trivial, ih others _⟩

theorem steady_level (lt : s.depth < limit) (balanced : Balanced inside)
    (steady : Steady limit (Command.deepen.apply s) inside) :
    Steady limit s ([.deepen] ++ inside ++ [.rise]) := by
  rw [steady_append, steady_append]
  refine ⟨⟨⟨lt, trivial⟩, steady⟩, ?_, trivial⟩
  rw [applyAll_append, Command.Allowed, (balanced.restored _).depth]
  exact Nat.succ_pos _

theorem between_steady {before after : List Command}
    (opening : ∀ command ∈ before, ∃ change, command = .scope change)
    (closing : ∀ command ∈ after, ∃ change, command = .scope change)
    (steady : Steady limit (Command.applyAll before s) inside) :
    Steady limit s (before ++ inside ++ after) := by
  rw [steady_append, steady_append]
  exact ⟨⟨steady_of_scope opening s, steady⟩, steady_of_scope closing _⟩

theorem closed_steady (settings : Settings) :
    Closed settings fun _ p => ∀ s,
      Balanced (p.commands s) ∧ Steady settings.limit s (p.commands s) where
  done _ _ := ⟨.nil, trivial⟩
  failed _ _ := ⟨.nil, trivial⟩
  look h s := h s.view s
  bind {_ _ p f} hp hf s := by
    refine ⟨(closed_balanced settings).bind (fun s => (hp s).1) (fun a s => (hf a s).1) s, ?_⟩
    rw [commands_bind, steady_append, ← run_state]
    refine ⟨(hp s).2, ?_⟩
    rcases p.run s with ⟨d | a, t⟩
    · trivial
    · exact (hf a t).2
  advance _ := ⟨.plain trivial, trivial, trivial⟩
  note _ _ := ⟨.plain trivial, trivial, trivial⟩
  declareVariable _ _ _ := ⟨.plain trivial, trivial, trivial⟩
  declareFunction _ _ _ := ⟨.plain trivial, trivial, trivial⟩
  inLoop hp s := by
    refine ⟨(closed_balanced settings).inLoop (fun s => (hp s).1) s, ?_⟩
    rw [commands_between]
    exact between_steady (by simp) (by simp) (hp _).2
  inFunction parameters hp s := by
    refine ⟨(closed_balanced settings).inFunction parameters (fun s => (hp s).1) s, ?_⟩
    rw [commands_between]
    exact between_steady (enterFunction_scope parameters) (by simp [leaveFunction]) (hp _).2
  nested hp s := by
    refine ⟨(closed_balanced settings).nested (fun s => (hp s).1) s, ?_⟩
    rw [commands_nested]
    split
    next => trivial
    next lt => exact steady_level (Nat.lt_of_not_le lt) (hp _).1 (hp _).2
  settled {p} hp s := by
    refine ⟨settled_balanced (fun s => (hp s).1) s, ?_⟩
    rw [commands_settled, steady_append]
    refine ⟨(hp s).2, ?_⟩
    split
    · trivial
    · split
      · exact ⟨trivial, trivial⟩
      · trivial

theorem Command.Allowed.depth_le {command : Command} (allowed : command.Allowed limit s)
    (le : s.depth ≤ limit) : (command.apply s).depth ≤ limit := by
  cases command with
  | deepen => exact allowed
  | rise => exact Nat.le_trans (Nat.sub_le _ _) le
  | advance | note | scope => exact le

theorem Steady.depth_le (steady : Steady limit s given) (le : s.depth ≤ limit) :
    (Command.applyAll given s).depth ≤ limit := by
  induction given generalizing s with
  | nil => exact le
  | cons command rest ih => exact ih steady.2 (steady.1.depth_le le)

theorem program_steady (settings : Settings) (levels count : Nat) (s : State) :
    Steady settings.limit s ((program settings levels count).commands s) :=
  ((closed_steady settings).program levels count s).2

theorem depth_le_of_visits {settings : Settings} {levels count : Nat} {t : State}
    (le : s.depth ≤ settings.limit) (visits : Visits (program settings levels count) s t) :
    t.depth ≤ settings.limit := by
  obtain ⟨given, ⟨after, split⟩, rfl⟩ := visits
  have steady := program_steady settings levels count s
  rw [← split, steady_append] at steady
  exact steady.1.depth_le le

theorem depth_pos_of_rise {settings : Settings} {levels count : Nat} {before : List Command}
    (closes : before ++ [.rise] <+: (program settings levels count).commands s) :
    0 < (Command.applyAll before s).depth := by
  obtain ⟨after, split⟩ := closes
  have steady := program_steady settings levels count s
  rw [← split, steady_append, steady_append] at steady
  exact steady.1.2.1

end DeskScript.Parser
