import DeskScript.Proofs.Grammar.Declaration

/-!
Runs that succeed, forwards: `Gives p s a Q` says that `p` ends with `a` in a state with `Q`, and
goes by the parts of `p`. What is kept track of is `At`: the tokens that are left, room for so many
more levels, and some knowledge of the scopes.
-/

namespace DeskScript.Parser

open Grammar

variable {α β : Type} {settings : Settings} {count : Nat} {p : Parser α} {s : State} {a : α}
variable {Q R : State → Prop} {K L : Tracker → Prop} {token : Token} {tokens rest : List Token}

/-- A parser ends with a value, in a state with a property. -/
def Gives (p : Parser α) (s : State) (a : α) (Q : State → Prop) : Prop :=
  ∃ t, p.run s = (.ok a, t) ∧ Q t

theorem Gives.pure (h : Q s) : Gives (Pure.pure a) s a Q :=
  ⟨s, rfl, h⟩

theorem Gives.bind {f : α → Parser β} {b : β} (first : Gives p s a Q)
    (second : ∀ t, Q t → Gives (f a) t b R) : Gives (p >>= f) s b R := by
  obtain ⟨t, run, q⟩ := first
  obtain ⟨u, run', r⟩ := second t q
  exact ⟨u, by rw [run_bind_of_ok run, run'], r⟩

theorem gives_of_run {t : State} (run : p.run s = (.ok a, t)) (h : Q t) : Gives p s a Q :=
  ⟨t, run, h⟩

/-- These tokens are left, so many more levels can open, no loop needs more rounds than it may
take, and the scopes are as `K` says. -/
structure At (settings : Settings) (count : Nat) (tokens : List Token) (K : Tracker → Prop)
    (s : State) : Prop where
  remaining : s.cursor.remaining = tokens
  room : s.depth + count ≤ settings.limit
  few : tokens.length ≤ settings.bound
  known : K s.scopes

namespace At

theorem current (h : At settings count (token :: rest) K s) : s.cursor.current = token :=
  (List.cons.inj h.remaining).1

theorem advance (h : At settings count (token :: rest) K s) (goesOn : token.isEof = false) :
    At settings count rest K s.advance := by
  have passed := (Cursor.advance_reads (h.current ▸ goesOn)).remaining
  rw [h.remaining, h.current, List.singleton_append] at passed
  refine ⟨(List.cons.inj passed).2.symm, h.room, ?_, h.known⟩
  exact Nat.le_of_succ_le h.few

theorem next? {next : Token} (h : At settings count (token :: next :: rest) K s) :
    s.cursor.next? = some next := by
  have ahead := (List.cons.inj h.remaining).2
  rw [Cursor.next?, ahead]
  rfl

end At

theorem gives_current (h : At settings count (token :: rest) K s) :
    Gives current s token (At settings count (token :: rest) K) :=
  ⟨s, by rw [run_current, h.current], h⟩

theorem gives_current_append {first others : List Token} (starts : first = token :: others)
    (h : At settings count (first ++ rest) K s) :
    Gives current s token (At settings count (first ++ rest) K) := by
  subst starts
  exact gives_current h

theorem gives_next? {next : Token} (h : At settings count (token :: next :: rest) K s) :
    Gives next? s (some next) (At settings count (token :: next :: rest) K) :=
  ⟨s, by rw [run_next?, h.next?], h⟩

theorem gives_advance (h : At settings count (token :: rest) K s) (goesOn : token.isEof = false) :
    Gives advance s () (At settings count rest K) :=
  ⟨s.advance, run_advance s, h.advance goesOn⟩

theorem gives_note (event : Journal.Event) (h : At settings count tokens K s) :
    Gives (note event) s () (At settings count tokens K) :=
  ⟨_, run_note event s, h.remaining, h.room, h.few, h.known⟩

theorem gives_scopes (h : At settings count tokens K s) :
    Gives scopes s s.scopes (At settings count tokens K) :=
  ⟨s, run_scopes s, h⟩

theorem gives_previousLine (h : At settings count tokens K s) :
    Gives previousLine s s.cursor.previous.line (At settings count tokens K) :=
  ⟨s, run_previousLine s, h⟩

theorem gives_accept {test : Token → Bool} (h : At settings count (token :: rest) K s)
    (passes : test token = true) (goesOn : token.isEof = false) :
    Gives (accept test) s true (At settings count rest K) := by
  refine ⟨s.advance, ?_, h.advance goesOn⟩
  rw [run_accept, h.current, passes]
  rfl

theorem gives_accept_false {test : Token → Bool} (h : At settings count (token :: rest) K s)
    (fails : test token = false) :
    Gives (accept test) s false (At settings count (token :: rest) K) := by
  refine ⟨s, ?_, h⟩
  rw [run_accept, h.current, fails]
  rfl

theorem gives_acceptOperator {sign : String} (h : At settings count (token :: rest) K s)
    (here : token.isOperator sign = true) :
    Gives (acceptOperator sign) s true (At settings count rest K) :=
  gives_accept h here (Token.not_eof_of_operator here)

theorem gives_acceptKeyword {word : String} (h : At settings count (token :: rest) K s)
    (here : token.isKeyword word = true) :
    Gives (acceptKeyword word) s true (At settings count rest K) :=
  gives_accept h here (Token.not_eof_of_keyword here)

theorem gives_acceptOperator_false {sign : String} (h : At settings count (token :: rest) K s)
    (other : token.isOperator sign = false) :
    Gives (acceptOperator sign) s false (At settings count (token :: rest) K) :=
  gives_accept_false h other

theorem gives_acceptKeyword_false {word : String} (h : At settings count (token :: rest) K s)
    (other : token.isKeyword word = false) :
    Gives (acceptKeyword word) s false (At settings count (token :: rest) K) :=
  gives_accept_false h other

theorem gives_expectOperator {sign : String} {what : Expectation}
    (h : At settings count (token :: rest) K s) (here : token.isOperator sign = true) :
    Gives (expectOperator sign what) s () (At settings count rest K) := by
  rw [← h.current] at here
  have goesOn := Token.not_eof_of_operator here
  rw [h.current] at goesOn
  exact ⟨s.advance, run_expectOperator_eq_ok.2 ⟨here, rfl⟩, h.advance goesOn⟩

theorem gives_expectKeyword {word : String} {what : Expectation}
    (h : At settings count (token :: rest) K s) (here : token.isKeyword word = true) :
    Gives (expectKeyword word what) s () (At settings count rest K) := by
  rw [← h.current] at here
  have goesOn := Token.not_eof_of_keyword here
  rw [h.current] at goesOn
  exact ⟨s.advance, run_expectKeyword_eq_ok.2 ⟨here, rfl⟩, h.advance goesOn⟩

theorem gives_expectIdentifier {what : Expectation} (h : At settings count (token :: rest) K s)
    (here : token.kind = .identifier) :
    Gives (expectIdentifier what) s token.text (At settings count rest K) := by
  have goesOn := Token.not_eof_of_kind here (by decide)
  rw [← h.current] at here ⊢
  exact ⟨s.advance, run_expectIdentifier_eq_ok.2 ⟨here, rfl, rfl⟩, h.advance goesOn⟩

theorem gives_nested (h : At settings (count + 1) tokens K s)
    (inside : ∀ t, At settings count tokens K t → Gives p t a (At settings count rest L)) :
    Gives (nested settings p) s a (At settings (count + 1) rest L) := by
  have room := h.room
  obtain ⟨t, run, after⟩ :=
    inside (Command.deepen.apply s) ⟨h.remaining, by change s.depth + 1 + count ≤ _; omega, h.few,
      h.known⟩
  have room' := after.room
  refine ⟨Command.rise.apply t, ?_, after.remaining, ?_, after.few, after.known⟩
  · rw [run_nested, if_neg (by omega), run_between]
    simp only [applyAll_cons, applyAll_nil, run]
  · change t.depth - 1 + (count + 1) ≤ settings.limit
    omega

theorem gives_inLoop {site : Site} {made : List (String × Option String)}
    (h : At settings count tokens (Recorded site) s)
    (inside : ∀ t, At settings count tokens (Recorded site.inLoop) t →
      Gives p t a (At settings count rest (Recorded (site.inLoop.after made)))) :
    Gives (between [.scope (.push .loop)] p [.scope (.pop .loop)]) s a
      (At settings count rest (Recorded (site.after made))) := by
  obtain ⟨t, run, after⟩ :=
    inside ((Command.scope (.push .loop)).apply s) ⟨h.remaining, h.room, h.few, h.known.push⟩
  refine ⟨(Command.scope (.pop .loop)).apply t, ?_, after.remaining, after.room, after.few,
    after.known.pop⟩
  rw [run_between]
  simp only [applyAll_cons, applyAll_nil, run]

theorem gives_inFunction {site : Site} {names : List String}
    (balanced : ∀ s, Balanced (p.commands s)) (h : At settings count tokens (Recorded site) s)
    (inside : ∀ t, At settings count tokens (Recorded site.inFunction) t →
      Gives p t a (At settings count rest L)) :
    Gives (between (enterFunction names) p leaveFunction) s a
      (At settings count rest (Recorded site)) := by
  obtain ⟨tracker, entered⟩ := enterFunction_eq names s
  have known := h.known.enterFunction names
  rw [entered] at known
  obtain ⟨t, run, after⟩ := inside { s with scopes := tracker } ⟨h.remaining, h.room, h.few, known⟩
  -- whatever the body has declared, the scopes afterwards are those before
  have scopes := run_inFunction_scopes balanced names s
  rw [run_between, entered, run] at scopes
  have left : ∃ outer, Command.applyAll leaveFunction t = { t with scopes := outer } := ⟨_, rfl⟩
  obtain ⟨outer, left⟩ := left
  rw [left] at scopes
  refine ⟨{ t with scopes := outer }, ?_, after.remaining, after.room, after.few, ?_⟩
  · rw [run_between, entered, run, left]
  · change outer = s.scopes at scopes
    rw [scopes]
    exact h.known

end DeskScript.Parser
