import DeskScript.Proofs.Parser.Termination

/-!
Two runs up to a seam. The tokens of the first run end there, those of the second go on. What
succeeds in the first run succeeds in the second with the same value, if the token after the seam
is one that no rule goes on with: `Seam.Along` says so of a parser. Only runs that succeed are
compared, so a rule that has to pass a token needs no attention at the seam, and the line of the
token before the current one, which is only blamed, may differ.
-/

namespace DeskScript

namespace Token

def continuations : List String :=
  ["THEN", "ELSEIF", "ELSE", "KEY", "BUTTON", "AND", "OR"]

/-- No rule goes on with this token, unless because it stands on the same line. -/
structure Fresh (token : Token) : Prop where
  sign : ∀ sign, token.isOperator sign = true → token.isStep = true
  word : ∀ word ∈ continuations, token.isKeyword word = false

variable {token : Token}

theorem Fresh.isOperator_eq_false (fresh : token.Fresh) {sign : String}
    (other : sign ∉ ["++", "--"]) : token.isOperator sign = false := by
  rw [Bool.eq_false_iff]
  intro here
  have text := (isOperator_iff.1 here).2
  rcases Bool.or_eq_true_iff.1 (fresh.sign sign here) with step | step
  all_goals
    have same := (isOperator_iff.1 step).2.symm.trans text
    simp [← same] at other

theorem Fresh.precedence?_eq_none (fresh : token.Fresh) : token.precedence? = none := by
  unfold precedence?
  cases kind : token.kind with
  | operator =>
    have step := fresh.sign token.text (isOperator_iff.2 ⟨kind, rfl⟩)
    rcases Bool.or_eq_true_iff.1 step with step | step
    all_goals simp [(isOperator_iff.1 step).2]
  | keyword => simp [fresh.word "OR" (by decide), fresh.word "AND" (by decide)]
  | _ => rfl

theorem kind_of_eof (ended : token.isEof = true) : token.kind = .eof := by
  simpa [isEof] using ended

theorem fresh_of_eof (ended : token.isEof = true) : token.Fresh where
  sign sign here := by simp [isOperator, kind_of_eof ended] at here
  word word _ := by simp [isKeyword, kind_of_eof ended]

end Token

/-- A place where one list of tokens ends and another goes on. -/
structure Seam where
  settings : Parser.Settings
  ending : Token
  next : Token
  rest : List Token
  ended : ending.isEof = true
  fresh : next.Fresh

namespace Seam

open DeskScript.Parser

variable (seam : Seam)

structure Before (token : Token) : Prop where
  goesOn : token.isEof = false
  apart : seam.next.isEof = false → token.line ≠ seam.next.line

structure Abreast (s s' : State) : Prop where
  tokens : ∃ ahead, (∀ token ∈ ahead, seam.Before token) ∧
    s.cursor.remaining = ahead ++ [seam.ending] ∧
    s'.cursor.remaining = ahead ++ seam.next :: seam.rest
  few : s.cursor.remaining.length ≤ seam.settings.bound
  depth : s.depth = s'.depth
  scopes : s.scopes = s'.scopes

variable {seam}

namespace Abreast

variable {s s' : State} (h : seam.Abreast s s')
include h

theorem seam_of_eof (ended : s.cursor.current.isEof = true) :
    s.cursor.remaining = [seam.ending] ∧ s'.cursor.remaining = seam.next :: seam.rest := by
  obtain ⟨ahead, before, first, second⟩ := h.tokens
  cases ahead with
  | nil => exact ⟨first, second⟩
  | cons token ahead =>
    have current : s.cursor.current = token := (List.cons.inj first).1
    rw [current, (before token (List.mem_cons_self ..)).goesOn] at ended
    cases ended

theorem current_of_eof (ended : s.cursor.current.isEof = true) :
    s.cursor.current = seam.ending ∧ s'.cursor.current = seam.next := by
  have ⟨first, second⟩ := h.seam_of_eof ended
  exact ⟨(List.cons.inj first).1, (List.cons.inj second).1⟩

theorem step (goesOn : s.cursor.current.isEof = false) :
    s'.cursor.current = s.cursor.current ∧ seam.Before s.cursor.current ∧
      seam.Abreast s.advance s'.advance := by
  obtain ⟨ahead, before, first, second⟩ := h.tokens
  -- the first file ends at the seam, so a token that is not its end lies before that
  cases ahead with
  | nil =>
    have current : s.cursor.current = seam.ending := (List.cons.inj first).1
    rw [current, seam.ended] at goesOn
    cases goesOn
  | cons token ahead =>
    have current : s.cursor.current = token := (List.cons.inj first).1
    have current' : s'.cursor.current = token := (List.cons.inj second).1
    have ⟨here, later⟩ := List.forall_mem_cons.1 before
    have goesOn' : s'.cursor.current.isEof = false := current' ▸ here.goesOn
    have passed := (Cursor.advance_reads goesOn).remaining
    have passed' := (Cursor.advance_reads goesOn').remaining
    rw [first, current] at passed
    rw [second, current'] at passed'
    refine ⟨by rw [current, current'], current ▸ here, ?_⟩
    refine ⟨⟨ahead, later, ?_, ?_⟩, ?_, h.depth, h.scopes⟩
    · exact (List.cons.inj passed).2.symm
    · exact (List.cons.inj passed').2.symm
    · exact (Cursor.advance_reads goesOn).within h.few

theorem current_eq (goesOn : s.cursor.current.isEof = false) :
    s'.cursor.current = s.cursor.current :=
  (h.step goesOn).1

theorem advance (goesOn : s.cursor.current.isEof = false) : seam.Abreast s.advance s'.advance :=
  (h.step goesOn).2.2

theorem test_eq {β : Type} (test : Token → β)
    (same : ∀ token, token.isEof = true → test token = test seam.next) :
    test s'.cursor.current = test s.cursor.current := by
  cases ended : s.cursor.current.isEof with
  | false => rw [h.current_eq ended]
  | true => rw [(h.current_of_eof ended).2, same _ ended]

theorem isOperator_eq {sign : String} (other : sign ∉ ["++", "--"]) :
    s'.cursor.current.isOperator sign = s.cursor.current.isOperator sign := by
  refine h.test_eq (·.isOperator sign) fun token ended => ?_
  rw [seam.fresh.isOperator_eq_false other, (Token.fresh_of_eof ended).isOperator_eq_false other]

theorem isKeyword_eq {word : String} (inside : word ∈ Token.continuations) :
    s'.cursor.current.isKeyword word = s.cursor.current.isKeyword word := by
  refine h.test_eq (·.isKeyword word) fun token ended => ?_
  rw [seam.fresh.word word inside, (Token.fresh_of_eof ended).word word inside]

theorem precedence?_eq : s'.cursor.current.precedence? = s.cursor.current.precedence? := by
  refine h.test_eq Token.precedence? fun token ended => ?_
  rw [seam.fresh.precedence?_eq_none, (Token.fresh_of_eof ended).precedence?_eq_none]

theorem sameLine_eq {token : Token} (before : seam.Before token) {test : Token → Bool}
    (ends : ∀ token, token.isEof = true → test token = false) :
    (test s'.cursor.current && s'.cursor.current.line == token.line) =
      (test s.cursor.current && s.cursor.current.line == token.line) := by
  refine h.test_eq (fun here => test here && here.line == token.line) fun other ended => ?_
  rw [ends other ended, Bool.false_and]
  cases last : seam.next.isEof with
  | true => rw [ends _ last, Bool.false_and]
  | false => rw [beq_eq_false_iff_ne.2 (before.apart last).symm, Bool.and_false]

theorem apply (command : Command) (still : command ≠ .advance) :
    seam.Abreast (command.apply s) (command.apply s') := by
  cases command with
  | advance => exact absurd rfl still
  | deepen => exact { h with depth := congrArg (· + 1) h.depth }
  | rise => exact { h with depth := congrArg (· - 1) h.depth }
  | note event => exact ⟨h.tokens, h.few, h.depth, h.scopes⟩
  | scope change => exact { h with scopes := congrArg change.apply h.scopes }

theorem applyAll {given : List Command} (still : Command.advance ∉ given) :
    seam.Abreast (Command.applyAll given s) (Command.applyAll given s') := by
  induction given generalizing s s' with
  | nil => exact h
  | cons command rest ih =>
    rw [List.mem_cons, not_or] at still
    exact ih (h.apply command (Ne.symm still.1)) still.2

end Abreast

variable {α β : Type}

/-- If the first parser succeeds, so does the second, with the same value and as far. -/
def At (seam : Seam) (p p' : Parser α) (s s' : State) : Prop :=
  ∀ a t, p.run s = (.ok a, t) → ∃ t', p'.run s' = (.ok a, t') ∧ seam.Abreast t t'

def Along (seam : Seam) (p : Parser α) : Prop :=
  ∀ s s', seam.Abreast s s' → seam.At p p s s'

variable {p p' q q' : Parser α} {f f' : α → Parser β} {s s' : State}

theorem At.bind (hp : seam.At p p' s s')
    (hf : ∀ a t t', p.run s = (.ok a, t) → seam.Abreast t t' → seam.At (f a) (f' a) t t') :
    seam.At (p >>= f) (p' >>= f') s s' := by
  intro b u ran
  obtain ⟨a, t, first, second⟩ := run_bind_eq_ok.1 ran
  obtain ⟨t', first', abreast⟩ := hp a t first
  obtain ⟨u', second', abreast'⟩ := hf a t t' first abreast b u second
  exact ⟨u', run_bind_eq_ok.2 ⟨a, t', first', second'⟩, abreast'⟩

theorem At.then (hp : seam.At p p' s s')
    (hf : ∀ a t t', seam.Abreast t t' → seam.At (f a) (f' a) t t') :
    seam.At (p >>= f) (p' >>= f') s s' :=
  hp.bind fun a t t' _ => hf a t t'

theorem Along.then {f : α → Parser β} (hp : seam.Along p) (hf : ∀ a, seam.Along (f a)) :
    seam.Along (p >>= f) :=
  fun s s' abreast => (hp s s' abreast).then hf

theorem At.current {f f' : Token → Parser α}
    (h : seam.At (f s.cursor.current) (f' s'.cursor.current) s s') :
    seam.At (current >>= f) (current >>= f') s s' :=
  h

theorem At.next? {f f' : Option Token → Parser α}
    (h : seam.At (f s.cursor.next?) (f' s'.cursor.next?) s s') :
    seam.At (next? >>= f) (next? >>= f') s s' :=
  h

theorem At.previousLine {f f' : Nat → Parser α}
    (h : ∀ line line', seam.At (f line) (f' line') s s') :
    seam.At (previousLine >>= f) (previousLine >>= f') s s' :=
  h _ _

theorem At.scopes {f f' : Tracker → Parser α} (h : seam.At (f s.scopes) (f' s'.scopes) s s') :
    seam.At (scopes >>= f) (scopes >>= f') s s' :=
  h

theorem along_scopes {f : Tracker → Parser α} (h : ∀ tracker, seam.Along (f tracker)) :
    seam.Along (scopes >>= f) := by
  intro s s' abreast
  refine At.scopes ?_
  rw [← abreast.scopes]
  exact h _ s s' abreast

theorem At.demand {f : Token → Parser α} (abreast : seam.Abreast s s')
    (ends : ∀ token, token.isEof = true → ∀ s a t, (f token).run s ≠ (.ok a, t))
    (h : s.cursor.current.isEof = false →
      seam.At (f s.cursor.current) (f s.cursor.current) s s') :
    seam.At (Parser.current >>= f) (Parser.current >>= f) s s' := by
  refine At.current ?_
  cases ended : s.cursor.current.isEof with
  | true => exact fun a t ran => absurd ran (ends _ ended s a t)
  | false =>
    rw [abreast.current_eq ended]
    exact h ended

theorem At.ite {c c' : Prop} [Decidable c] [Decidable c'] (same : c ↔ c')
    (hp : c → seam.At p p' s s') (hq : ¬c → seam.At q q' s s') :
    seam.At (if c then p else q) (if c' then p' else q') s s' := by
  by_cases h : c
  · rw [if_pos h, if_pos (same.1 h)]
    exact hp h
  · rw [if_neg h, if_neg (fun h' => h (same.2 h'))]
    exact hq h

theorem Along.ite {c : Prop} [Decidable c] (hp : seam.Along p) (hq : seam.Along q) :
    seam.Along (if c then p else q) :=
  fun s s' abreast => .ite .rfl (fun _ => hp s s' abreast) fun _ => hq s s' abreast

theorem along_pure (a : α) : seam.Along (pure a) := by
  intro s s' abreast b t ran
  obtain ⟨rfl, rfl⟩ := run_pure_eq_ok.1 ran
  exact ⟨s', rfl, abreast⟩

theorem at_fail (cause : Diagnostic.Cause) (line : Nat) : seam.At (fail cause line) p' s s' := by
  intro a t ran
  simp at ran

theorem at_unexpected (what : Expectation) : seam.At (unexpected what) p' s s' := by
  intro a t ran
  simp at ran

theorem at_tooDeep (settings : Settings) : seam.At (tooDeep settings) p' s s' := by
  intro a t ran
  simp at ran

theorem along_fail (cause : Diagnostic.Cause) (line : Nat) :
    seam.Along (fail cause line : Parser α) :=
  fun _ _ _ => at_fail cause line

theorem along_note (event : Journal.Event) : seam.Along (note event) := by
  intro s s' abreast a t ran
  obtain ⟨-, rfl⟩ := Prod.mk.inj ran
  exact ⟨_, run_note event s', abreast.apply (.note event) nofun⟩

theorem along_change (change : Tracker.Change) : seam.Along (Parser.change change) := by
  intro s s' abreast a t ran
  obtain ⟨-, rfl⟩ := Prod.mk.inj ran
  exact ⟨_, run_change change s', abreast.apply (.scope change) nofun⟩

theorem at_advance (abreast : seam.Abreast s s') (goesOn : s.cursor.current.isEof = false) :
    seam.At advance advance s s' := by
  intro a t ran
  obtain ⟨-, rfl⟩ := Prod.mk.inj ran
  exact ⟨_, run_advance s', abreast.advance goesOn⟩

theorem along_between {before after : List Command} (opens : Command.advance ∉ before)
    (closes : Command.advance ∉ after) (h : seam.Along p) :
    seam.Along (between before p after) := by
  intro s s' abreast a t ran
  obtain ⟨u, inside, rfl⟩ := run_between_eq_ok.1 ran
  obtain ⟨u', inside', abreast'⟩ := h _ _ (abreast.applyAll opens) a u inside
  exact ⟨_, run_between_eq_ok.2 ⟨u', inside', rfl⟩, abreast'.applyAll closes⟩

theorem along_nested (settings : Settings) (h : seam.Along p) :
    seam.Along (nested settings p) := by
  intro s s' abreast a t ran
  obtain ⟨room, u, inside, rfl⟩ := run_nested_eq_ok.1 ran
  obtain ⟨u', inside', abreast'⟩ := h _ _ (abreast.apply .deepen nofun) a u inside
  exact ⟨_, run_nested_eq_ok.2 ⟨abreast.depth ▸ room, u', inside', rfl⟩,
    abreast'.apply .rise nofun⟩

theorem along_accept {test : Token → Bool}
    (same : ∀ {s s'}, seam.Abreast s s' → test s'.cursor.current = test s.cursor.current)
    (goesOn : ∀ {token}, test token = true → token.isEof = false) :
    seam.Along (accept test) := by
  intro s s' abreast
  refine At.current (.ite (by rw [same abreast]) (fun here => ?_) fun _ => ?_)
  · exact (at_advance abreast (goesOn here)).then fun _ => along_pure true
  · exact along_pure false s s' abreast

theorem along_acceptOperator {sign : String} (other : sign ∉ ["++", "--"]) :
    seam.Along (acceptOperator sign) :=
  along_accept (fun abreast => abreast.isOperator_eq other) Token.not_eof_of_operator

theorem along_acceptKeyword {word : String} (inside : word ∈ Token.continuations) :
    seam.Along (acceptKeyword word) :=
  along_accept (fun abreast => abreast.isKeyword_eq inside) Token.not_eof_of_keyword

theorem along_expectOperator (sign : String) (what : Expectation) :
    seam.Along (expectOperator sign what) := by
  intro s s' abreast a t ran
  obtain ⟨here, rfl⟩ := run_expectOperator_eq_ok.1 ran
  have goesOn := Token.not_eof_of_operator here
  rw [← abreast.current_eq goesOn] at here
  exact ⟨_, run_expectOperator_eq_ok.2 ⟨here, rfl⟩, abreast.advance goesOn⟩

theorem along_expectKeyword (word : String) (what : Expectation) :
    seam.Along (expectKeyword word what) := by
  intro s s' abreast a t ran
  obtain ⟨here, rfl⟩ := run_expectKeyword_eq_ok.1 ran
  have goesOn := Token.not_eof_of_keyword here
  rw [← abreast.current_eq goesOn] at here
  exact ⟨_, run_expectKeyword_eq_ok.2 ⟨here, rfl⟩, abreast.advance goesOn⟩

theorem along_expectIdentifier (what : Expectation) : seam.Along (expectIdentifier what) := by
  intro s s' abreast name t ran
  obtain ⟨here, rfl, rfl⟩ := run_expectIdentifier_eq_ok.1 ran
  have goesOn := Token.not_eof_of_kind here (by decide)
  rw [← abreast.current_eq goesOn] at here ⊢
  exact ⟨_, run_expectIdentifier_eq_ok.2 ⟨here, rfl, rfl⟩, abreast.advance goesOn⟩

theorem along_commaList {item : Parser α} (h : seam.Along item) (read : List α) (rounds : Nat) :
    seam.Along (commaList item read rounds) := by
  induction rounds generalizing read with
  | zero => exact along_pure _
  | succ rounds ih =>
    refine h.then fun next => (along_acceptOperator (by decide)).then fun _ => ?_
    exact .ite (ih _) (along_pure _)

end Seam

end DeskScript
