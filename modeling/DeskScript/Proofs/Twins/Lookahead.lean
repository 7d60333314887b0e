import DeskScript.Proofs.Twins.Rules

/-!
How far ahead a parse looks. Where it ends, whether it succeeds or fails, it has looked at one more
token at most, and at none if the file ends there: what comes later makes no difference. Main
statement: `parse_lookahead`.
-/

namespace DeskScript

namespace Parser

structure Outcome.Agrees (first second : Outcome) : Prop where
  result : first.result = second.result
  scopes : first.scopes = second.scopes
  position : first.position = second.position

variable {options : Options} {tokens tokens' : List Token}

theorem parse_position_le {before after : List Token} {ending : Token}
    (split : Cursor.complete tokens = before ++ ending :: after) (ended : ending.isEof = true) :
    (parse options tokens).position ≤ before.length := by
  let cursor := ((reader defaultLimit options tokens).run (start .initial tokens)).2.cursor
  obtain ⟨passed, reads⟩ := run_reads (reader defaultLimit options tokens) (start .initial tokens)
  have all : cursor.toList = before ++ ending :: after :=
    (reads.toList_eq.trans (start_toList .initial tokens)).trans split
  have place := cursor.current_at.2
  rw [all, List.takeWhile_append] at place
  refine Nat.le_trans place ?_
  split
  · simp [ended]
  · exact (List.takeWhile_prefix _).length_le

theorem agrees_of_reached
    (reached : ∀ i ≤ (parse options tokens).position,
      (Cursor.complete tokens)[i]? = (Cursor.complete tokens')[i]?)
    (ahead : ∀ token, (Cursor.complete tokens)[(parse options tokens).position]? = some token →
      token.isEof = false →
      (Cursor.complete tokens)[(parse options tokens).position + 1]? =
        (Cursor.complete tokens')[(parse options tokens).position + 1]?) :
    (parse options tokens).Agrees (parse options tokens') := by
  have matched : (Twins.agreeing reached ahead).Matched Eq _ _ :=
    Twins.matched_reader defaultLimit options .initial rfl rfl (Nat.le_refl _)
  unfold parse parseFrom
  generalize (reader defaultLimit options tokens).run (start .initial tokens) = ran at matched ⊢
  generalize (reader defaultLimit options tokens').run (start .initial tokens') = ran' at matched ⊢
  cases matched with
  | ok same abreast => exact ⟨congrArg Except.ok same, abreast.scopes, abreast.position⟩
  | error alike abreast => exact ⟨congrArg Except.error alike.eq, abreast.scopes, abreast.position⟩

/--
Whatever follows the token after the one where a parse ends makes no difference to its result, to
the scopes it leaves and to the place where it ends; and if the file ends there, neither does that
token. So nothing that comes after the first end of the file makes a difference.
-/
theorem parse_lookahead (options : Options) (tokens tokens' : List Token) :
    ((∀ i ≤ (parse options tokens).position + 1,
        (Cursor.complete tokens)[i]? = (Cursor.complete tokens')[i]?) →
      (parse options tokens).Agrees (parse options tokens')) ∧
    (∀ ending, (Cursor.complete tokens)[(parse options tokens).position]? = some ending →
      ending.isEof = true →
      (∀ i ≤ (parse options tokens).position,
        (Cursor.complete tokens)[i]? = (Cursor.complete tokens')[i]?) →
      (parse options tokens).Agrees (parse options tokens')) ∧
    ∀ before ending after after', ending.isEof = true →
      Cursor.complete tokens = before ++ ending :: after →
      Cursor.complete tokens' = before ++ ending :: after' →
      (parse options tokens).Agrees (parse options tokens') := by
  refine ⟨fun same => ?_, fun ending found ended same => ?_,
    fun before ending after after' ended split split' => ?_⟩
  · refine agrees_of_reached (fun i le => same i (Nat.le_succ_of_le le)) fun _ _ _ => ?_
    exact same _ (Nat.le_refl _)
  · refine agrees_of_reached same fun token found' goesOn => ?_
    obtain rfl : ending = token := Option.some.inj (found.symm.trans found')
    simp [ended] at goesOn
  · have le : (parse options tokens).position ≤ before.length := parse_position_le split ended
    have same (i : Nat) (le : i ≤ before.length) :
        (Cursor.complete tokens)[i]? = (Cursor.complete tokens')[i]? := by
      rw [split, split']
      rcases Nat.lt_or_eq_of_le le with lt | rfl
      · rw [List.getElem?_append_left lt, List.getElem?_append_left lt]
      · simp
    refine agrees_of_reached (fun i within => same i (Nat.le_trans within le)) ?_
    intro token found goesOn
    have earlier : (parse options tokens).position ≠ before.length := by
      intro last
      rw [split, last] at found
      obtain rfl : ending = token := by simpa using found
      simp [ended] at goesOn
    exact same _ (Nat.lt_of_le_of_ne le earlier)

def unclosed (rest : List Token) : List Token :=
  ⟨.keyword, some "PRINT", 1⟩ :: ⟨.operator, some "(", 1⟩ :: ⟨.integer, some "1", 1⟩ ::
    ⟨.keyword, some "ENDIF", 2⟩ :: ⟨.identifier, some "x", 2⟩ :: rest

theorem parse_lookahead_unclosed :
    (parse .none (unclosed [])).Agrees
      (parse .none (unclosed [⟨.operator, some ")", 2⟩, .eof 3, .eof 4])) := by
  refine (parse_lookahead _ _ _).1 fun i le => ?_
  have place : (parse .none (unclosed [])).position = 3 := rfl
  rw [place] at le
  revert i
  decide

end Parser

end DeskScript
