import DeskScript.Proofs.Parser.Termination

/-!
Two parsers that differ only in where they open levels. Their runs go the same way, command by
command, up to a place where the second opens a level and the first may not: a barrier says which
places these are and what the first is refused with there. `Barrier.Until` goes from parts to
wholes, so it holds of two rules if it holds of the parsers for what is inside them.
-/

namespace DeskScript.Parser

variable {α β : Type} {d : Nat} {s t u : State}

/-- Where a first run may not open a level. -/
structure Barrier where
  closed : State → Prop
  blame : State → Option Diagnostic
  plain : ∀ t e, blame t = some e → e.settle = e

structure Together (d : Nat) (p q : Parser α) (s : State) : Prop extends Same d p q s where
  commands : p.commands s = q.commands s

namespace Barrier

variable (barrier : Barrier)

structure Met (p q : Parser α) (s t : State) : Prop where
  reached : ∃ given, given <+: p.commands s ∧ given ++ [.deepen] <+: q.commands s ∧
    t = Command.applyAll given s
  closed : barrier.closed t
  blamed : ∀ e, barrier.blame t = some e → (p.run s).1 = .error e

/-- From every state of this depth both parsers do the same, unless they meet the barrier. -/
def Until (d : Nat) (α : Type) (p q : Parser α) : Prop :=
  ∀ s, s.depth = d → Together d p q s ∨ ∃ t, barrier.Met p q s t

variable {barrier} {p q : Parser α} {p' q' : Parser β}

theorem Met.inside (before : List Command) (met : barrier.Met p q s t)
    (entered : s = Command.applyAll before u) (first : before ++ p.commands s <+: p'.commands u)
    (second : before ++ q.commands s <+: q'.commands u)
    (fails : ∀ e, e.settle = e → (p.run s).1 = .error e → (p'.run u).1 = .error e) :
    barrier.Met p' q' u t := by
  obtain ⟨given, passed, opens, rfl⟩ := met.reached
  refine ⟨⟨before ++ given, ?_, ?_, ?_⟩, met.closed,
    fun e blamed => fails e (barrier.plain _ e blamed) (met.blamed e blamed)⟩
  · exact ((List.prefix_append_right_inj before).2 passed).trans first
  · rw [List.append_assoc]
    exact ((List.prefix_append_right_inj before).2 opens).trans second
  · rw [applyAll_append, ← entered]

theorem until_self (keeps : ∀ s, (p.run s).2.depth = s.depth) : barrier.Until d α p p :=
  fun s depth => .inl ⟨⟨rfl, (keeps s).trans depth⟩, rfl⟩

theorem until_congr {p' q' : Parser α} (h : barrier.Until d α p q)
    (first : ∀ s, s.depth = d → p'.run s = p.run s ∧ p'.commands s = p.commands s)
    (second : ∀ s, s.depth = d → q'.run s = q.run s ∧ q'.commands s = q.commands s) :
    barrier.Until d α p' q' := by
  intro s depth
  obtain ⟨ran, gave⟩ := first s depth
  obtain ⟨ran', gave'⟩ := second s depth
  rcases h s depth with same | ⟨t, met⟩
  · refine .inl ⟨⟨?_, ?_⟩, ?_⟩
    · rw [ran, ran', same.run]
    · rw [ran, same.depth]
    · rw [gave, gave', same.commands]
  · refine .inr ⟨t, met.inside [] rfl ?_ ?_ fun e _ fails => ?_⟩
    · rw [gave]
      exact List.prefix_refl _
    · rw [gave']
      exact List.prefix_refl _
    · rw [ran, fails]

theorem until_bind {f g : α → Parser β} (hp : barrier.Until d α p q)
    (hf : ∀ a, barrier.Until d β (f a) (g a)) : barrier.Until d β (p >>= f) (q >>= g) := by
  intro s depth
  rcases hp s depth with same | ⟨t, met⟩
  · have back := same.depth
    have second := same.run
    rcases first : p.run s with ⟨e | a, t⟩
    · rw [first] at back second
      refine .inl ⟨⟨?_, ?_⟩, ?_⟩
      · rw [run_bind, run_bind, first, ← second]
      · rw [run_bind, first]
        exact back
      · rw [commands_bind, commands_bind, first, ← second, same.commands]
    · rw [first] at back second
      have gave : (p >>= f).commands s = p.commands s ++ (f a).commands t := by
        rw [commands_bind, first]
      have gave' : (q >>= g).commands s = p.commands s ++ (g a).commands t := by
        rw [commands_bind, ← second, same.commands]
      -- both have come to the same state, where the second parts are compared
      rcases hf a t back with later | ⟨v, met⟩
      · refine .inl ⟨⟨?_, ?_⟩, ?_⟩
        · rw [run_bind_of_ok first, run_bind_of_ok second.symm, later.run]
        · rw [run_bind_of_ok first, later.depth]
        · rw [gave, gave', later.commands]
      · have entered : t = Command.applyAll (p.commands s) s := by
          rw [← run_state, first]
        refine .inr ⟨v, met.inside (p.commands s) entered ?_ ?_ fun e _ fails => ?_⟩
        · exact gave ▸ List.prefix_refl _
        · exact gave' ▸ List.prefix_refl _
        · rw [run_bind_of_ok first, fails]
  · refine .inr ⟨t, met.inside [] rfl ?_ ?_ fun e _ fails => ?_⟩
    · rw [commands_bind]
      exact List.prefix_append _ _
    · rw [commands_bind]
      exact List.prefix_append _ _
    · rw [run_bind]
      rcases first : p.run s with ⟨e' | a, v⟩
      · rw [first] at fails
        exact congrArg Except.error (Except.error.inj fails)
      · rw [first] at fails
        cases fails

theorem between_together {before after : List Command} {inner : Nat}
    (left : ∀ s : State, s.depth = inner → (Command.applyAll after s).depth = d)
    (same : Together inner p q (Command.applyAll before s)) :
    Together d (between before p after) (between before q after) s := by
  refine ⟨⟨?_, ?_⟩, ?_⟩
  · rw [run_between, run_between, same.run]
  · rw [run_between]
    exact left _ same.depth
  · rw [commands_between, commands_between, same.commands]

theorem until_between {before after : List Command} {inner : Nat}
    (entered : ∀ s : State, s.depth = d → (Command.applyAll before s).depth = inner)
    (left : ∀ s : State, s.depth = inner → (Command.applyAll after s).depth = d)
    (hp : barrier.Until inner α p q) :
    barrier.Until d α (between before p after) (between before q after) := by
  intro s depth
  rcases hp _ (entered s depth) with same | ⟨t, met⟩
  · exact .inl (between_together left same)
  · refine .inr ⟨t, met.inside before rfl ?_ ?_ fun e _ fails => ?_⟩
    · rw [commands_between]
      exact List.prefix_append _ _
    · rw [commands_between]
      exact List.prefix_append _ _
    · rw [run_between, fails]

theorem until_level (hp : barrier.Until (d + 1) α p q) :
    barrier.Until d α (between [.deepen] p [.rise]) (between [.deepen] q [.rise]) :=
  until_between (fun _ depth => congrArg (· + 1) depth) (fun _ depth => congrArg (· - 1) depth) hp

theorem until_settled (hp : barrier.Until d α p q) :
    barrier.Until d α p.settled q.settled := by
  intro s depth
  rcases hp s depth with same | ⟨t, met⟩
  · refine .inl ⟨⟨?_, ?_⟩, ?_⟩
    · rw [run_settled, run_settled, same.run]
    · rw [settled_depth, same.depth]
    · rw [commands_settled, commands_settled, same.commands, same.run]
  · refine .inr ⟨t, met.inside [] rfl ?_ ?_ fun e plain fails => ?_⟩
    · rw [commands_settled]
      exact List.prefix_append _ _
    · rw [commands_settled]
      exact List.prefix_append _ _
    · rw [run_settled]
      rcases first : p.run s with ⟨e' | a, v⟩
      · rw [first] at fails
        obtain rfl : e' = e := Except.error.inj fails
        exact congrArg Except.error plain
      · rw [first] at fails
        cases fails

theorem nested_below {settings : Settings} (p : Parser α) (below : s.depth < settings.limit) :
    (nested settings p).run s = (between [.deepen] p [.rise]).run s ∧
      (nested settings p).commands s = (between [.deepen] p [.rise]).commands s := by
  rw [run_nested, commands_nested, if_neg (Nat.not_le.2 below), if_neg (Nat.not_le.2 below),
    commands_between]
  exact ⟨rfl, rfl⟩

theorem nested_above {settings : Settings} (p : Parser α) (above : settings.limit ≤ s.depth) :
    (nested settings p).run s = (tooDeep settings : Parser α).run s ∧
      (nested settings p).commands s = [] := by
  rw [run_nested, commands_nested, if_pos above, if_pos above]
  exact ⟨rfl, rfl⟩

theorem until_nested {settings : Settings} (hp : barrier.Until (d + 1) α p q) :
    barrier.Until d α (nested settings p) (nested settings q) := by
  by_cases above : settings.limit ≤ d
  · have same : barrier.Until d α (tooDeep settings : Parser α) (tooDeep settings) :=
      until_self fun _ => rfl
    exact until_congr same (fun s depth => nested_above p (depth ▸ above))
      (fun s depth => nested_above q (depth ▸ above))
  · have below := Nat.lt_of_not_le above
    exact until_congr (until_level hp) (fun s depth => nested_below p (depth ▸ below))
      (fun s depth => nested_below q (depth ▸ below))

theorem until_related (barrier : Barrier) (settings : Settings) :
    Related settings settings barrier.Until where
  limit := rfl
  done _ := until_self fun _ => rfl
  failed _ := until_self fun _ => rfl
  look h s depth := by
    rcases h s.view s depth with same | ⟨t, met⟩
    · exact .inl ⟨⟨same.run, same.depth⟩, same.commands⟩
    · exact .inr ⟨t, met.reached, met.closed, met.blamed⟩
  bind hp hf := until_bind hp hf
  advance := until_self fun _ => rfl
  note _ := until_self fun _ => rfl
  declareVariable _ _ := until_self fun _ => rfl
  declareFunction _ _ := until_self fun _ => rfl
  inLoop hp := until_between (fun _ depth => depth) (fun _ depth => depth) hp
  inFunction parameters hp := by
    refine until_between (fun s depth => ?_) (fun _ depth => depth) hp
    obtain ⟨tracker, entered⟩ := enterFunction_eq parameters s
    rw [entered]
    exact depth
  nested hp := until_nested hp
  settled hp := until_settled hp
  requireVariable name := until_self fun s => by rw [requireVariable_state]
  checkCall name given line := until_self fun s => by rw [checkCall_state]

end Barrier

end DeskScript.Parser
