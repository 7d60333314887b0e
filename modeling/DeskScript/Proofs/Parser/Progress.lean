import DeskScript.Proofs.Grammar.Program

/-!
How a run moves over the tokens. No command moves the cursor back or past the first end of the
file, and every statement that is read moves it forward.
-/

namespace DeskScript.Parser

open Grammar

variable {α : Type} {s t : State}

theorem apply_reads (command : Command) (s : State) :
    ∃ tokens, s.cursor.Reads tokens (command.apply s).cursor := by
  cases command with
  | advance => exact s.cursor.advance_reads_some
  | deepen | rise | note | scope => exact ⟨[], .refl _⟩

theorem applyAll_reads (given : List Command) (s : State) :
    ∃ tokens, s.cursor.Reads tokens (Command.applyAll given s).cursor := by
  induction given generalizing s with
  | nil => exact ⟨[], .refl _⟩
  | cons command rest ih =>
    obtain ⟨first, reads⟩ := apply_reads command s
    obtain ⟨second, reads'⟩ := ih (command.apply s)
    exact ⟨first ++ second, reads.trans reads'⟩

theorem run_reads (p : Parser α) (s : State) :
    ∃ tokens, s.cursor.Reads tokens (p.run s).2.cursor := by
  rw [run_state]
  exact applyAll_reads _ s

theorem run_remaining_le (p : Parser α) (s : State) :
    (p.run s).2.cursor.remaining.length ≤ s.cursor.remaining.length := by
  obtain ⟨tokens, reads⟩ := run_reads p s
  exact reads.within (Nat.le_refl _)

theorem cursor_of_visits {p : Parser α} (visits : Visits p s t) :
    t.cursor.toList = s.cursor.toList ∧
      s.cursor.toList[t.cursor.position]? = some t.cursor.current ∧
      t.cursor.position ≤ (s.cursor.toList.takeWhile (!·.isEof)).length := by
  obtain ⟨given, -, rfl⟩ := visits
  obtain ⟨read, reads⟩ := applyAll_reads given s
  have place := (Command.applyAll given s).cursor.current_at
  rw [reads.toList_eq] at place
  exact ⟨reads.toList_eq, place⟩

theorem position_mono (earlier later : List Command) (s : State) :
    (Command.applyAll earlier s).cursor.position ≤
      (Command.applyAll (earlier ++ later) s).cursor.position := by
  rw [applyAll_append]
  obtain ⟨read, reads⟩ := applyAll_reads later (Command.applyAll earlier s)
  rw [reads.position_eq]
  exact Nat.le_add_right _ _

theorem exists_recorded (tracker : Tracker) : ∃ site, Recorded site tracker := by
  refine ⟨⟨tracker.contexts, tracker.current.variableTypes.entries.reverse⟩, rfl, fun name => ?_⟩
  rw [latestType, List.reverse_reverse]
  rfl

theorem statement_moves {settings : Settings} {levels : Nat} {node : Node}
    (enough : s.cursor.remaining.length ≤ settings.bound)
    (h : (statement settings levels).run s = (.ok node, t)) :
    ∃ tokens, tokens ≠ [] ∧ s.cursor.Reads tokens t.cursor := by
  obtain ⟨site, recorded⟩ := exists_recorded s.scopes
  obtain ⟨tokens, reads, derives, -⟩ :=
    statement_derived settings levels site s node t enough recorded h
  exact ⟨tokens, statement_ne_nil derives, reads⟩

end DeskScript.Parser
