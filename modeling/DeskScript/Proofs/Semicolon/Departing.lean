import DeskScript.Proofs.Parser.Termination
import DeskScript.Proofs.Semicolon.Watched

/-!
Rules that begin by taking the current token. Such a rule either fails or is past that token before
any statement can end, so where it starts no statement ends. Expressions and statements are of this
kind.
-/

namespace DeskScript.Parser

variable {α β : Type} {p : Parser α} {s t : State} {settings : Settings} {inner sub : Parser Node}

/-- A run fails or takes the current token, and enters no bare end before that. -/
def Departs : Parser α → State → Prop
  | .done _, _ => False
  | .failed _, _ => True
  | .look next, s => (next s.view).Departs s
  | .perform command next, s =>
    command = .advance ∧ s.cursor.current.isEof = false ∨
      command ≠ .advance ∧ command ≠ .note bareEnd ∧ next.Departs (command.apply s)

def Takes (p : Parser α) (s : State) : Prop :=
  ∀ a t, p.run s = (.ok a, t) → t.cursor.remaining.length < s.cursor.remaining.length

theorem Takes.after {f : α → Parser β} (h : ∀ a t, (f a).Takes t) : (p >>= f).Takes s := by
  intro b u ran
  obtain ⟨a, t, first, second⟩ := run_bind_eq_ok.1 ran
  have le := run_remaining_le p s
  rw [first] at le
  exact Nat.lt_of_lt_of_le (h a t b u second) le

namespace Departs

theorem of_advance {f : Unit → Parser α} (goesOn : s.cursor.current.isEof = false) :
    (advance >>= f).Departs s :=
  .inl ⟨rfl, goesOn⟩

theorem current {f : Token → Parser α} (h : (f s.cursor.current).Departs s) :
    (current >>= f).Departs s :=
  h

theorem ite {q : Parser α} {c : Prop} [Decidable c] (hp : c → p.Departs s)
    (hq : ¬c → q.Departs s) : (if c then p else q).Departs s := by
  split
  · exact hp ‹_›
  · exact hq ‹_›

theorem bind {f : α → Parser β} (h : p.Departs s) : (p >>= f).Departs s := by
  rw [bind_eq]
  induction p generalizing s with
  | done a => exact h.elim
  | failed e => exact h
  | look next ih => exact ih s.view h
  | perform command next ih =>
    refine h.imp_right fun ⟨still, plain, later⟩ => ?_
    exact ⟨still, plain, ih later⟩

theorem ifAccepted {test : Token → Bool} {q : Parser α}
    (goesOn : test s.cursor.current = true → s.cursor.current.isEof = false) (h : q.Departs s) :
    (do if ← accept test then p else q).Departs s := by
  by_cases passes : test s.cursor.current = true
  · have taken : (accept test).Departs s := by
      change Departs (if test s.cursor.current then _ else _) s
      rw [if_pos passes]
      exact of_advance (goesOn passes)
    exact taken.bind
  · have skipped : (do if ← accept test then p else q).Departs s = q.Departs s := by
      change Departs (Parser.bind (if test s.cursor.current then _ else _) _) s = _
      rw [if_neg passes]
      rfl
    exact skipped ▸ h

theorem requireVariable {name : String} {f : Unit → Parser α} (h : (f ()).Departs s) :
    (requireVariable settings name >>= f).Departs s := by
  change Departs (Parser.bind (if _ then _ else _) f) s
  split
  · trivial
  · exact h

theorem closing (after : List Command) (still : Command.advance ∉ after)
    (plain : .note bareEnd ∉ after) (h : p.Departs s) : (p.closing after).Departs s := by
  induction p generalizing s with
  | done a => exact h.elim
  | failed e =>
    unfold Parser.closing
    induction after generalizing s with
    | nil => exact h
    | cons command rest ih =>
      rw [List.mem_cons, not_or] at still plain
      exact .inr ⟨Ne.symm still.1, Ne.symm plain.1, ih still.2 plain.2 trivial⟩
  | look next ih => exact ih s.view h
  | perform command next ih =>
    refine h.imp_right fun ⟨still, plain, later⟩ => ?_
    exact ⟨still, plain, ih later⟩

theorem nested (h : ∀ s, p.Departs s) : (nested settings p).Departs s := by
  change Departs (if settings.limit ≤ s.depth then _ else _) s
  refine .ite (fun _ => trivial) fun _ => .inr ⟨nofun, nofun, ?_⟩
  exact (h _).closing _ (by simp) (by simp)

theorem takes (h : p.Departs s) : p.Takes s := by
  intro a t ran
  induction p generalizing s with
  | done a => exact h.elim
  | failed e => cases ran
  | look next ih => exact ih s.view h ran
  | perform command next ih =>
    rcases h with ⟨rfl, goesOn⟩ | ⟨_, _, later⟩
    · have le := run_remaining_le next s.advance
      rw [show next.run s.advance = _ from ran] at le
      exact Nat.lt_of_le_of_lt le (advance_fewer goesOn)
    · obtain ⟨tokens, reads⟩ := apply_reads command s
      exact Nat.lt_of_lt_of_le (ih later ran) (reads.within (Nat.le_refl _))

end Departs

theorem expectOperator_departs (sign : String) (what : Expectation) :
    (expectOperator sign what).Departs s :=
  .ifAccepted Token.not_eof_of_operator trivial

theorem expectKeyword_departs (word : String) (what : Expectation) :
    (expectKeyword word what).Departs s :=
  .ifAccepted Token.not_eof_of_keyword trivial

theorem expectIdentifier_departs (what : Expectation) : (expectIdentifier what).Departs s := by
  refine .current (.ite (fun kind => .of_advance ?_) fun _ => trivial)
  exact Token.not_eof_of_kind kind (by decide)

theorem primary_departs : (primary settings inner).Departs s := by
  refine .current ?_
  split
  case h_1 kind | h_2 kind | h_3 kind | h_4 kind | h_6 kind =>
    exact .of_advance (Token.not_eof_of_kind kind (by decide))
  case h_5 kind =>
    have goesOn := Token.not_eof_of_kind kind (by decide)
    exact .ite (fun _ => .of_advance goesOn) fun _ => .ite (fun _ => .of_advance goesOn) fun _ =>
      trivial
  case h_7 kind =>
    have goesOn := Token.not_eof_of_kind kind (by decide)
    refine .ite (fun _ => .of_advance goesOn) fun _ => ?_
    refine .ite (fun _ => .of_advance goesOn) fun _ => ?_
    exact .ite (fun _ => .of_advance goesOn) fun _ => trivial
  case h_8 => trivial

theorem expression_departs (levels least : Nat) : (expression settings levels least).Departs s := by
  cases levels with
  | zero => trivial
  | succ levels => exact .nested fun _ => primary_departs.bind

theorem wordStatement_departs (goesOn : s.cursor.current.isEof = false) (token : Token)
    (word : String) : (wordStatement settings inner sub token word).Departs s := by
  unfold wordStatement
  split
  · exact .of_advance goesOn
  · split
    case h_14 => trivial
    all_goals exact .of_advance goesOn

theorem identifierStatement_departs (goesOn : s.cursor.current.isEof = false) :
    (identifierStatement settings inner).Departs s := by
  change Departs (if s.cursor.next?.any (·.isStep) then _ else _) s
  refine .ite (fun _ => .of_advance goesOn) fun _ => .ite (fun _ => .of_advance goesOn) fun _ => ?_
  trivial

theorem unterminated_departs : (unterminated settings inner sub).Departs s := by
  refine .current ?_
  split
  next kind =>
    -- the entry for the statement is none for a bare end
    refine .inr ⟨nofun, nofun, wordStatement_departs ?_ _ _⟩
    exact Token.not_eof_of_kind kind (by decide)
  next kind => exact identifierStatement_departs (Token.not_eof_of_kind kind (by decide))
  next kind =>
    have goesOn := Token.not_eof_of_kind kind (by decide)
    exact .ite (fun _ => .of_advance goesOn) fun _ => trivial
  next => trivial

theorem watchedTerminated_departs : (watchedTerminated settings inner sub).Departs s :=
  .ifAccepted Token.not_eof_of_operator unterminated_departs.bind

end DeskScript.Parser
