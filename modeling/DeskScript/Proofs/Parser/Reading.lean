import DeskScript.Proofs.Parser.Run

/-!
Which tokens a run passes. `Cursor.Reads` relates two places by the tokens between them, and the
lemmas on elementary parsers say when these succeed and where they end.
-/

namespace DeskScript

namespace Token

variable {token : Token}

theorem isOperator_iff {sign : String} :
    token.isOperator sign = true ↔ token.kind = .operator ∧ token.text = sign := by
  simp [isOperator]

theorem isKeyword_iff {word : String} :
    token.isKeyword word = true ↔
      token.kind = .keyword ∧ Text.upper token.text = Text.upper word := by
  simp [isKeyword, Text.sameWord]

theorem isEof_eq_false : token.isEof = false ↔ token.kind ≠ .eof := by
  simp [isEof]

theorem not_eof_of_kind {kind : Kind} (h : token.kind = kind) (ne : kind ≠ .eof) :
    token.isEof = false :=
  isEof_eq_false.2 (h ▸ ne)

theorem not_eof_of_operator {sign : String} (h : token.isOperator sign = true) :
    token.isEof = false :=
  not_eof_of_kind (isOperator_iff.1 h).1 (by decide)

theorem not_eof_of_keyword {word : String} (h : token.isKeyword word = true) :
    token.isEof = false :=
  not_eof_of_kind (isKeyword_iff.1 h).1 (by decide)

theorem not_eof_of_numeric (h : token.kind.isNumeric = true) : token.isEof = false := by
  rw [isEof_eq_false]
  intro ended
  rw [ended] at h
  cases h

theorem kind_of_step (h : token.isStep = true) : token.kind = .operator := by
  rcases Bool.or_eq_true_iff.1 h with h | h <;> exact (isOperator_iff.1 h).1

theorem not_eof_of_step (h : token.isStep = true) : token.isEof = false :=
  not_eof_of_kind (kind_of_step h) (by decide)

theorem not_eof_of_precedence {precedence : Nat} (h : token.precedence? = some precedence) :
    token.isEof = false := by
  rw [isEof_eq_false]
  intro ended
  simp [precedence?, ended] at h

end Token

namespace Cursor

/-- Between two places stand these tokens. -/
structure Reads (c : Cursor) (tokens : List Token) (d : Cursor) : Prop where
  remaining : c.remaining = tokens ++ d.remaining
  passed : d.passed = tokens.reverse ++ c.passed

namespace Reads

variable {c d e : Cursor} {first second tokens : List Token}

theorem refl (c : Cursor) : c.Reads [] c :=
  ⟨rfl, rfl⟩

theorem trans (h : c.Reads first d) (k : d.Reads second e) : c.Reads (first ++ second) e where
  remaining := by rw [h.remaining, k.remaining, List.append_assoc]
  passed := by rw [k.passed, h.passed, List.reverse_append, List.append_assoc]

theorem current (h : c.Reads tokens d) : c.current = tokens.headD d.current := by
  have same := congrArg List.head? h.remaining
  cases tokens with
  | nil => simpa [Cursor.remaining] using same
  | cons token rest => simpa [Cursor.remaining] using same

theorem length (h : c.Reads tokens d) :
    c.remaining.length = tokens.length + d.remaining.length := by
  rw [h.remaining, List.length_append]

theorem within (h : c.Reads tokens d) {bound : Nat} (enough : c.remaining.length ≤ bound) :
    d.remaining.length ≤ bound := by
  rw [h.length] at enough
  exact Nat.le_of_add_left_le enough

theorem not_eof (h : c.Reads tokens d) {token : Token} (mem : token ∈ tokens) :
    token.isEof = false :=
  d.unended token (by rw [h.passed]; exact List.mem_append_left _ (List.mem_reverse.2 mem))

theorem toList_eq (h : c.Reads tokens d) : d.toList = c.toList := by
  change d.passed.reverse ++ d.remaining = c.passed.reverse ++ c.remaining
  rw [h.passed, h.remaining]
  simp

theorem position_eq (h : c.Reads tokens d) :
    d.position = c.position + tokens.length := by
  rw [Cursor.position, h.passed, List.length_append, List.length_reverse, Nat.add_comm]
  rfl

end Reads

theorem step_reads (c : Cursor) (goesOn : c.current.isEof = false) :
    c.Reads [c.current] (c.step goesOn) := by
  unfold step
  split
  next next rest h => exact ⟨by simp [remaining, h], rfl⟩
  next h => exact absurd c.ending (by simp [goesOn, h])

theorem advance_of_goesOn {c : Cursor} (goesOn : c.current.isEof = false) :
    c.advance = c.step goesOn := by
  rw [advance, dif_neg (by simp [goesOn])]

theorem advance_of_eof {c : Cursor} (ended : c.current.isEof = true) : c.advance = c := by
  rw [advance, dif_pos ended]

theorem advance_reads {c : Cursor} (goesOn : c.current.isEof = false) :
    c.Reads [c.current] c.advance := by
  rw [advance_of_goesOn goesOn]
  exact c.step_reads goesOn

theorem reads_operator {c : Cursor} {sign : String} (h : c.current.isOperator sign = true) :
    c.Reads [c.current] c.advance :=
  advance_reads (Token.not_eof_of_operator h)

theorem reads_keyword {c : Cursor} {word : String} (h : c.current.isKeyword word = true) :
    c.Reads [c.current] c.advance :=
  advance_reads (Token.not_eof_of_keyword h)

theorem reads_identifier {c : Cursor} (h : c.current.kind = .identifier) :
    c.Reads [c.current] c.advance :=
  advance_reads (Token.not_eof_of_kind h (by decide))

theorem ofList_remaining (tokens : List Token) (ending : ∃ token ∈ tokens, token.isEof = true) :
    (ofList tokens ending).remaining = tokens := by
  cases tokens with
  | nil => simp at ending
  | cons first rest => rfl

theorem ofList_passed (tokens : List Token) (ending : ∃ token ∈ tokens, token.isEof = true) :
    (ofList tokens ending).passed = [] := by
  cases tokens with
  | nil => simp at ending
  | cons first rest => rfl

theorem advance_reads_some (c : Cursor) : ∃ tokens, c.Reads tokens c.advance := by
  cases ended : c.current.isEof with
  | true => exact ⟨[], by rw [advance_of_eof ended]; exact .refl c⟩
  | false => exact ⟨_, advance_reads ended⟩

theorem current_at (c : Cursor) :
    c.toList[c.position]? = some c.current ∧
      c.position ≤ (c.toList.takeWhile (!·.isEof)).length := by
  constructor
  · simp [toList, position]
  · have goesOn : ∀ token ∈ c.passed.reverse, (!token.isEof) = true := by
      simpa using c.unended
    rw [toList, List.takeWhile_append_of_pos goesOn, List.length_append,
      List.length_reverse]
    exact Nat.le_add_right _ _

theorem remaining_pos (c : Cursor) : 0 < c.remaining.length := by
  simp [remaining]

theorem advance_length {c : Cursor} (goesOn : c.current.isEof = false) :
    c.remaining.length = c.advance.remaining.length + 1 := by
  rw [(advance_reads goesOn).length, List.length_singleton, Nat.add_comm]

theorem next?_eq_some {c : Cursor} (goesOn : c.current.isEof = false) :
    c.next? = some c.advance.current := by
  have same := (advance_reads goesOn).remaining
  simp only [remaining, List.singleton_append, List.cons.injEq, true_and] at same
  rw [next?, same]
  rfl

end Cursor

namespace Parser

variable {α : Type} {s t : State}

@[simp] theorem run_accept (test : Token → Bool) (s : State) :
    (accept test).run s =
      (.ok (test s.cursor.current), if test s.cursor.current then s.advance else s) := by
  rw [accept, run_bind_of_ok (run_current s)]
  split
  next h => simp [run_bind_of_ok (run_advance s), h]
  next h => simp [h]

@[simp] theorem run_acceptOperator (sign : String) (s : State) :
    (acceptOperator sign).run s = (.ok (s.cursor.current.isOperator sign),
      if s.cursor.current.isOperator sign then s.advance else s) :=
  run_accept _ s

@[simp] theorem run_acceptKeyword (word : String) (s : State) :
    (acceptKeyword word).run s = (.ok (s.cursor.current.isKeyword word),
      if s.cursor.current.isKeyword word then s.advance else s) :=
  run_accept _ s

@[simp] theorem run_ifOperator (sign : String) (p q : Parser α) (s : State) :
    (do if ← acceptOperator sign then p else q).run s =
      if s.cursor.current.isOperator sign then p.run s.advance else q.run s := by
  rw [run_bind_of_ok (run_acceptOperator sign s)]
  split <;> simp [*]

@[simp] theorem run_ifKeyword (word : String) (p q : Parser α) (s : State) :
    (do if ← acceptKeyword word then p else q).run s =
      if s.cursor.current.isKeyword word then p.run s.advance else q.run s := by
  rw [run_bind_of_ok (run_acceptKeyword word s)]
  split <;> simp [*]

@[simp] theorem run_expectOperator_eq_ok {sign : String} {what : Expectation} {u : Unit} :
    (expectOperator sign what).run s = (.ok u, t) ↔
      s.cursor.current.isOperator sign = true ∧ s.advance = t := by
  rw [expectOperator, run_ifOperator]
  split <;> simp [*]

@[simp] theorem run_expectKeyword_eq_ok {word : String} {what : Expectation} {u : Unit} :
    (expectKeyword word what).run s = (.ok u, t) ↔
      s.cursor.current.isKeyword word = true ∧ s.advance = t := by
  rw [expectKeyword, run_ifKeyword]
  split <;> simp [*]

@[simp] theorem run_expectIdentifier_eq_ok {what : Expectation} {name : String} :
    (expectIdentifier what).run s = (.ok name, t) ↔
      s.cursor.current.kind = .identifier ∧ s.cursor.current.text = name ∧ s.advance = t := by
  rw [expectIdentifier, run_bind_of_ok (run_current s)]
  split <;> simp [run_bind, *]

end Parser

end DeskScript
