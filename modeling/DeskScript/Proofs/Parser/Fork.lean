import DeskScript.Proofs.Parser.Termination

/-!
An expression in another place. Where a list of tokens ends after an expression, another may go on
with a token that no expression goes on with: the expression is read there as well, and stays the
same where fewer levels are open. `Fork.along_expression` compares the two runs. They agree up to
the fork, but the arguments of a call are compared only as far as the first file goes on, because a
comma after the fork would be taken for one between arguments.
-/

namespace DeskScript

namespace Token

structure Stops (token : Token) : Prop where
  operator : token.precedence? = none
  call : token.isOperator "(" = false
  step : token.isStep = false

variable {token : Token}

theorem stops_of_eof (ended : token.isEof = true) : token.Stops := by
  have kind : token.kind = .eof := by simpa [isEof] using ended
  constructor <;> simp [precedence?, isStep, isOperator, kind]

theorem stops_of_sign {sign : String} (known : sign = "," ∨ sign = ")")
    (here : token.isOperator sign = true) : token.Stops := by
  obtain ⟨kind, text⟩ := isOperator_iff.1 here
  rcases known with rfl | rfl <;> constructor <;> simp [precedence?, isStep, isOperator, kind, text]

end Token

/-- A place where one list of tokens ends and another goes on. -/
structure Fork where
  ending : Token
  next : Token
  rest : List Token
  ended : ending.isEof = true
  stops : next.Stops

namespace Fork

open DeskScript.Parser

variable (fork : Fork)

structure Abreast (s s' : State) : Prop where
  tokens : ∃ ahead, (∀ token ∈ ahead, token.isEof = false) ∧
    s.cursor.remaining = ahead ++ [fork.ending] ∧
    s'.cursor.remaining = ahead ++ fork.next :: fork.rest
  depth : s'.depth ≤ s.depth
  scopes : s'.scopes = s.scopes

variable {fork}

namespace Abreast

variable {s s' : State} (h : fork.Abreast s s')
include h

theorem step (goesOn : s.cursor.current.isEof = false) :
    s'.cursor.current = s.cursor.current ∧ fork.Abreast s.advance s'.advance := by
  obtain ⟨ahead, before, first, second⟩ := h.tokens
  cases ahead with
  | nil =>
    have current : s.cursor.current = fork.ending := (List.cons.inj first).1
    rw [current, fork.ended] at goesOn
    cases goesOn
  | cons token ahead =>
    have current : s.cursor.current = token := (List.cons.inj first).1
    have current' : s'.cursor.current = token := (List.cons.inj second).1
    have ⟨here, later⟩ := List.forall_mem_cons.1 before
    have passed := (Cursor.advance_reads goesOn).remaining
    have passed' := (Cursor.advance_reads (current' ▸ here)).remaining
    rw [first, current] at passed
    rw [second, current'] at passed'
    refine ⟨current'.trans current.symm, ⟨ahead, later, ?_, ?_⟩, h.depth, h.scopes⟩
    · exact (List.cons.inj passed).2.symm
    · exact (List.cons.inj passed').2.symm

theorem current_eq (goesOn : s.cursor.current.isEof = false) :
    s'.cursor.current = s.cursor.current :=
  (h.step goesOn).1

theorem advance (goesOn : s.cursor.current.isEof = false) : fork.Abreast s.advance s'.advance :=
  (h.step goesOn).2

theorem remaining_of_eof (ended : s.cursor.current.isEof = true) :
    s'.cursor.remaining = fork.next :: fork.rest := by
  obtain ⟨ahead, before, first, second⟩ := h.tokens
  cases ahead with
  | nil => exact second
  | cons token ahead =>
    have current : s.cursor.current = token := (List.cons.inj first).1
    rw [current, before token (List.mem_cons_self ..)] at ended
    cases ended

theorem test_eq {β : Type} (test : Token → β) {value : β}
    (same : ∀ token, token.Stops → test token = value) :
    test s'.cursor.current = test s.cursor.current := by
  cases ended : s.cursor.current.isEof with
  | false => rw [h.current_eq ended]
  | true =>
    have current : s'.cursor.current = fork.next := (List.cons.inj (h.remaining_of_eof ended)).1
    rw [current, same _ fork.stops, same _ (Token.stops_of_eof ended)]

theorem deepen : fork.Abreast (Command.deepen.apply s) (Command.deepen.apply s') :=
  ⟨h.tokens, Nat.succ_le_succ h.depth, h.scopes⟩

theorem rise : fork.Abreast (Command.rise.apply s) (Command.rise.apply s') :=
  ⟨h.tokens, Nat.sub_le_sub_right h.depth 1, h.scopes⟩

end Abreast

variable {α β : Type}

/-- If the first parser succeeds, so does the second, with the same value and as far. -/
def At (fork : Fork) (p p' : Parser α) (s s' : State) : Prop :=
  ∀ a t, p.run s = (.ok a, t) → ∃ t', p'.run s' = (.ok a, t') ∧ fork.Abreast t t'

def Inside (fork : Fork) (p p' : Parser α) (s s' : State) : Prop :=
  ∀ a t, p.run s = (.ok a, t) → t.cursor.current.isEof = false →
    ∃ t', p'.run s' = (.ok a, t') ∧ fork.Abreast t t'

def Along (fork : Fork) (p p' : Parser α) : Prop :=
  ∀ s s', fork.Abreast s s' → fork.At p p' s s'

variable {p p' q q' : Parser α} {f f' : α → Parser β} {inner inner' : Parser Node}
variable {settings : Settings} {s s' : State} {token : Token}

theorem At.then (hp : fork.At p p' s s') (hf : ∀ a, fork.Along (f a) (f' a)) :
    fork.At (p >>= f) (p' >>= f') s s' := by
  intro b u ran
  obtain ⟨a, t, first, second⟩ := run_bind_eq_ok.1 ran
  obtain ⟨t', first', abreast⟩ := hp a t first
  obtain ⟨u', second', abreast'⟩ := hf a t t' abreast b u second
  exact ⟨u', run_bind_eq_ok.2 ⟨a, t', first', second'⟩, abreast'⟩

theorem Along.then (hp : fork.Along p p') (hf : ∀ a, fork.Along (f a) (f' a)) :
    fork.Along (p >>= f) (p' >>= f') :=
  fun s s' abreast => (hp s s' abreast).then hf

theorem Inside.then (hp : fork.Inside p p' s s')
    (demands : ∀ a t b u, (f a).run t = (.ok b, u) → t.cursor.current.isEof = false)
    (hf : ∀ a, fork.Along (f a) (f' a)) : fork.At (p >>= f) (p' >>= f') s s' := by
  intro b u ran
  obtain ⟨a, t, first, second⟩ := run_bind_eq_ok.1 ran
  obtain ⟨t', first', abreast⟩ := hp a t first (demands a t b u second)
  obtain ⟨u', second', abreast'⟩ := hf a t t' abreast b u second
  exact ⟨u', run_bind_eq_ok.2 ⟨a, t', first', second'⟩, abreast'⟩

theorem At.current {g g' : Token → Parser α}
    (h : fork.At (g s.cursor.current) (g' s'.cursor.current) s s') :
    fork.At (current >>= g) (current >>= g') s s' :=
  h

theorem At.previousLine {g g' : Nat → Parser α}
    (h : ∀ line line', fork.At (g line) (g' line') s s') :
    fork.At (previousLine >>= g) (previousLine >>= g') s s' :=
  h _ _

theorem At.scopes {g g' : Tracker → Parser α} (h : fork.At (g s.scopes) (g' s'.scopes) s s') :
    fork.At (scopes >>= g) (scopes >>= g') s s' :=
  h

theorem At.ite {c c' : Prop} [Decidable c] [Decidable c'] (same : c ↔ c')
    (hp : c → fork.At p p' s s') (hq : ¬c → fork.At q q' s s') :
    fork.At (if c then p else q) (if c' then p' else q') s s' := by
  by_cases h : c
  · rw [if_pos h, if_pos (same.1 h)]
    exact hp h
  · rw [if_neg h, if_neg (fun h' => h (same.2 h'))]
    exact hq h

theorem along_pure (a : α) : fork.Along (pure a) (pure a) := by
  intro s s' abreast b t ran
  obtain ⟨rfl, rfl⟩ := run_pure_eq_ok.1 ran
  exact ⟨s', rfl, abreast⟩

theorem at_failed {d : Diagnostic} (fails : (p.run s).1 = .error d) : fork.At p p' s s' := by
  intro a t ran
  rw [ran] at fails
  cases fails

theorem at_advance (abreast : fork.Abreast s s') (goesOn : s.cursor.current.isEof = false) :
    fork.At advance advance s s' := by
  intro a t ran
  obtain ⟨-, rfl⟩ := Prod.mk.inj ran
  exact ⟨_, run_advance s', abreast.advance goesOn⟩

theorem along_expectOperator (sign : String) (what : Expectation) :
    fork.Along (expectOperator sign what) (expectOperator sign what) := by
  intro s s' abreast a t ran
  obtain ⟨here, rfl⟩ := run_expectOperator_eq_ok.1 ran
  have goesOn := Token.not_eof_of_operator here
  rw [← abreast.current_eq goesOn] at here
  exact ⟨_, run_expectOperator_eq_ok.2 ⟨here, rfl⟩, abreast.advance goesOn⟩

theorem along_expectIdentifier (what : Expectation) :
    fork.Along (expectIdentifier what) (expectIdentifier what) := by
  intro s s' abreast name t ran
  obtain ⟨here, rfl, rfl⟩ := run_expectIdentifier_eq_ok.1 ran
  have goesOn := Token.not_eof_of_kind here (by decide)
  rw [← abreast.current_eq goesOn] at here ⊢
  exact ⟨_, run_expectIdentifier_eq_ok.2 ⟨here, rfl, rfl⟩, abreast.advance goesOn⟩

theorem along_nested (h : fork.Along p p') :
    fork.Along (nested settings p) (nested settings p') := by
  intro s s' abreast a t ran
  obtain ⟨room, u, inside, rfl⟩ := run_nested_eq_ok.1 ran
  obtain ⟨u', inside', abreast'⟩ := h _ _ abreast.deepen a u inside
  exact ⟨_, run_nested_eq_ok.2 ⟨Nat.lt_of_le_of_lt abreast.depth room, u', inside', rfl⟩,
    abreast'.rise⟩

theorem goesOn_of_run (h : (p.run s).2.cursor.current.isEof = false) :
    s.cursor.current.isEof = false := by
  obtain ⟨tokens, reads⟩ := run_reads p s
  have current := reads.current
  cases tokens with
  | nil => exact current ▸ h
  | cons token tokens => exact current ▸ reads.not_eof List.mem_cons_self

theorem along_literal (kind : Token.Kind) (text : String) (line : Nat) :
    fork.Along (literal kind text line) (literal kind text line) := by
  intro s s' abreast
  unfold literal
  split
  all_goals
    split
    · exact along_pure _ s s' abreast
    · exact at_failed rfl

theorem along_requireVariable (name : String) :
    fork.Along (requireVariable settings name) (requireVariable settings name) := by
  intro s s' abreast
  refine At.scopes ?_
  rw [abreast.scopes]
  exact .ite .rfl (fun _ => at_failed rfl) fun _ => along_pure () s s' abreast

theorem along_checkCall (name : String) (given line line' : Nat) :
    fork.Along (checkCall settings name given line) (checkCall settings name given line') := by
  intro s s' abreast
  refine At.scopes ?_
  rw [abreast.scopes]
  refine .ite .rfl (fun _ => at_failed rfl) fun _ => .ite .rfl (fun _ => ?_) fun _ => ?_
  · split
    · exact .ite .rfl (fun _ => along_pure () s s' abreast) fun _ => at_failed rfl
    · exact along_pure () s s' abreast
  · exact along_pure () s s' abreast

theorem inside_commaList (hinner : fork.Along inner inner') (read : List Node) (rounds : Nat)
    (abreast : fork.Abreast s s') :
    fork.Inside (commaList inner read rounds) (commaList inner' read rounds) s s' := by
  induction rounds generalizing read s s' with
  | zero => exact fun a t ran _ => along_pure _ s s' abreast a t ran
  | succ rounds ih =>
    intro nodes t ran goesOn
    simp only [commaList, run_bind_eq_ok, run_ifOperator] at ran ⊢
    obtain ⟨node, u, first, second⟩ := ran
    obtain ⟨u', first', abreast'⟩ := hinner s s' abreast node u first
    -- the file of the first run does not end at the comma, nor where the list does
    have goesOn' : u.cursor.current.isEof = false := by
      split at second
      next comma => exact Token.not_eof_of_operator comma
      next => exact goesOn_of_run (by rw [second]; exact goesOn)
    have together := abreast'.step goesOn'
    split at second
    next comma =>
      obtain ⟨t', others, there⟩ := ih _ together.2 nodes t second goesOn
      refine ⟨t', ⟨node, u', first', ?_⟩, there⟩
      rw [together.1, if_pos comma, others]
    next comma =>
      obtain ⟨t', others, there⟩ := along_pure _ u u' abreast' nodes t second
      refine ⟨t', ⟨node, u', first', ?_⟩, there⟩
      rw [together.1, if_neg comma, others]

theorem inside_arguments (hinner : fork.Along inner inner') (abreast : fork.Abreast s s') :
    fork.Inside (arguments settings inner) (arguments settings inner') s s' := by
  intro nodes t ran goesOn
  have here : s.cursor.current.isEof = false := goesOn_of_run (by rw [ran]; exact goesOn)
  unfold arguments at ran ⊢
  rw [run_bind_of_ok (run_current _)] at ran ⊢
  rw [abreast.current_eq here]
  split at ran
  next closing =>
    rw [if_pos closing]
    exact along_pure _ s s' abreast nodes t ran
  next closing =>
    rw [if_neg closing]
    exact inside_commaList hinner [] _ abreast nodes t ran goesOn

theorem at_call (hinner : fork.Along inner inner') (name : String) (abreast : fork.Abreast s s')
    (goesOn : s.cursor.current.isEof = false) :
    fork.At (call settings inner name) (call settings inner' name) s s' := by
  refine At.previousLine fun line line' => (at_advance abreast goesOn).then fun _ t t' there => ?_
  refine (inside_arguments hinner there).then (fun nodes u node v ran => ?_) fun nodes => ?_
  · obtain ⟨_, _, closes, -⟩ := run_bind_eq_ok.1 ran
    exact Token.not_eof_of_operator (run_expectOperator_eq_ok.1 closes).1
  · exact (along_expectOperator _ _).then fun _ => (along_checkCall name _ line line').then
      fun _ => along_pure _

theorem at_updateBefore (abreast : fork.Abreast s s')
    (goesOn : s.cursor.current.isEof = false) :
    fork.At (updateBefore settings) (updateBefore settings) s s' := by
  refine At.current ?_
  rw [abreast.current_eq goesOn]
  refine (at_advance abreast goesOn).then fun _ => (along_expectIdentifier _).then fun name => ?_
  exact (along_requireVariable name).then fun _ => along_pure _

theorem along_updateAfter (name : String) (line : Nat) :
    fork.Along (updateAfter name line) (updateAfter name line) := by
  intro s s' abreast
  have same := abreast.test_eq (fun token => token.isStep && token.line == line)
    (fun token stops => by rw [stops.step, Bool.false_and])
  refine At.current (.ite (by rw [same]) (fun step => ?_) fun _ => ?_)
  · have goesOn := Token.not_eof_of_step (Bool.and_eq_true_iff.1 step).1
    rw [abreast.current_eq goesOn]
    exact (at_advance abreast goesOn).then fun _ => along_pure _
  · exact along_pure _ s s' abreast

theorem at_named (hinner : fork.Along inner inner') (abreast : fork.Abreast s s')
    (goesOn : s.cursor.current.isEof = false) :
    fork.At (named settings inner) (named settings inner') s s' := by
  refine At.current ?_
  rw [abreast.current_eq goesOn]
  refine (at_advance abreast goesOn).then fun _ t t' abreast => At.current ?_
  have same := abreast.test_eq (·.isOperator "(") fun token stops => stops.call
  refine .ite (by rw [same]) (fun opening => ?_) fun _ => ?_
  · exact at_call hinner _ abreast (Token.not_eof_of_operator opening)
  · exact (along_requireVariable _ t t' abreast).then fun _ => along_updateAfter _ _

theorem at_enclosed (hinner : fork.Along inner inner') (abreast : fork.Abreast s s')
    (goesOn : s.cursor.current.isEof = false) :
    fork.At (enclosed inner) (enclosed inner') s s' :=
  (at_advance abreast goesOn).then fun _ => hinner.then fun _ =>
    (along_expectOperator _ _).then fun _ => along_pure _

theorem at_negated (abreast : fork.Abreast s s') (goesOn : s.cursor.current.isEof = false) :
    fork.At negated negated s s' := by
  refine (at_advance abreast goesOn).then fun _ t t' abreast => At.current ?_
  cases ended : t.cursor.current.isEof with
  | true =>
    rw [if_neg fun numeric => by simp [Token.not_eof_of_numeric numeric] at ended]
    exact at_failed rfl
  | false =>
    rw [abreast.current_eq ended]
    refine .ite .rfl (fun _ => ?_) fun _ => at_failed rfl
    exact (at_advance abreast ended).then fun _ => along_literal _ _ _

theorem along_primary (hinner : fork.Along inner inner') :
    fork.Along (primary settings inner) (primary settings inner') := by
  intro s s' abreast
  refine At.current ?_
  -- where the first file ends no operand is read, so there is nothing to compare
  cases ended : s.cursor.current.isEof with
  | true =>
    have kind : s.cursor.current.kind = .eof := by simpa [Token.isEof] using ended
    rw [kind]
    exact at_failed rfl
  | false =>
    have passing {p : Parser Node} (hp : fork.Along p p) :
        fork.At (do advance; p) (do advance; p) s s' :=
      (at_advance abreast ended).then fun _ => hp
    rw [abreast.current_eq ended]
    split
    case h_1 | h_2 | h_3 => exact passing (along_literal _ _ _)
    case h_4 => exact passing (along_pure _)
    case h_5 =>
      refine .ite .rfl (fun _ => passing (along_pure _)) fun _ => ?_
      exact .ite .rfl (fun _ => passing (along_pure _)) fun _ => at_failed rfl
    case h_6 => exact at_named hinner abreast ended
    case h_7 =>
      refine .ite .rfl (fun _ => at_enclosed hinner abreast ended) fun _ => ?_
      refine .ite .rfl (fun _ => at_negated abreast ended) fun _ => ?_
      exact .ite .rfl (fun _ => at_updateBefore abreast ended) fun _ => at_failed rfl
    case h_8 => exact at_failed rfl

theorem along_operators {operand operand' : Nat → Parser Node}
    (h : ∀ least, fork.Along (operand least) (operand' least)) (least rounds : Nat) (left : Node) :
    fork.Along (operators operand least rounds left) (operators operand' least rounds left) := by
  induction rounds generalizing left with
  | zero => exact along_pure left
  | succ rounds ih =>
    intro s s' abreast
    refine At.current ?_
    rw [abreast.test_eq Token.precedence? fun token stops => stops.operator]
    split
    next precedence operator =>
      have goesOn := Token.not_eof_of_precedence operator
      rw [abreast.current_eq goesOn]
      refine .ite .rfl (fun _ => along_pure left s s' abreast) fun _ => ?_
      exact (at_advance abreast goesOn).then fun _ => (h _).then fun _ => ih _
    next => exact along_pure left s s' abreast

theorem along_expression (settings : Settings) {levels levels' : Nat} (le : levels ≤ levels')
    (least : Nat) :
    fork.Along (expression settings levels least) (expression settings levels' least) := by
  induction levels generalizing levels' least with
  | zero => exact fun s s' _ => at_failed rfl
  | succ levels ih =>
    obtain ⟨levels', rfl⟩ : ∃ fewer, levels' = fewer + 1 := ⟨levels' - 1, by omega⟩
    have fewer (least : Nat) := ih (Nat.le_of_succ_le_succ le) least
    exact along_nested ((along_primary (fewer 1)).then fun left =>
      along_operators fewer least _ left)

end Fork

end DeskScript
