import DeskScript.Proofs.Grammar.Basic
import DeskScript.Proofs.Parser.Reading

/-!
Every expression that is read is one of the grammar, and the tokens passed are exactly those of
its derivation. The invariant of the loop over operators: what has been read so far is an
expression of some level, and no operator that follows binds tighter than that level.
-/

namespace DeskScript.Parser

open Grammar

variable {α : Type} {settings : Settings} {inner : Parser Node} {s t : State} {bound : Nat}

/-- With at most `bound` tokens left, a parser that succeeds has read what `R` says of the tokens
passed, the one that follows and the value, and has not touched the scopes. -/
def Sound (bound : Nat) (p : Parser α) (R : List Token → Token → α → Prop) : Prop :=
  ∀ s a t, s.cursor.remaining.length ≤ bound → p.run s = (.ok a, t) →
    ∃ tokens, s.cursor.Reads tokens t.cursor ∧ R tokens t.cursor.current a ∧ t.scopes = s.scopes

def ReadsExpression (bound least : Nat) (p : Parser Node) : Prop :=
  Sound bound p fun tokens follow node => Term.Derives tokens follow (.expression least node) ∧
    ∀ level, follow.precedence? = some level → level < least

theorem precedence?_le {token : Token} {level : Nat} (h : token.precedence? = some level) :
    level ≤ 6 := by
  unfold Token.precedence? at h
  split at h
  · dsimp only at h
    repeat' split at h
    all_goals simp_all
    all_goals omega
  · repeat' split at h
    all_goals simp_all
    all_goals omega
  · simp at h

theorem loosen {tokens : List Token} {follow : Token} {node : Node} {level least : Nat}
    (le : least ≤ level) (h : Term.Derives tokens follow (.expression level node)) :
    Term.Derives tokens follow (.expression least node) := by
  induction level with
  | zero => rwa [Nat.le_zero.1 le]
  | succ level ih =>
    rcases Nat.le_succ_iff.1 le with le | rfl
    · exact ih le h.tighter
    · exact h

theorem literal_eq_ok {kind : Token.Kind} {text : String} {line : Nat} {node : Node}
    (numeric : kind.isNumeric = true) (h : (literal kind text line).run s = (.ok node, t)) :
    Numeral text kind node ∧ t = s := by
  cases kind <;> simp only [Token.Kind.isNumeric, Bool.false_eq_true] at numeric
  all_goals
    unfold literal at h
    dsimp only at h
    split at h
    next value read =>
      obtain ⟨rfl, rfl⟩ := run_pure_eq_ok.1 h
      exact ⟨by constructor; exact read, rfl⟩
    next => simp at h

theorem requireVariable_eq_ok {name : String} {u : Unit}
    (h : (requireVariable settings name).run s = (.ok u, t)) : t = s := by
  rw [requireVariable, run_bind_of_ok (run_scopes s)] at h
  split at h
  · simp [run_bind] at h
  · simpa using h.symm

theorem checkCall_eq_ok {name : String} {given line : Nat} {u : Unit}
    (h : (checkCall settings name given line).run s = (.ok u, t)) : t = s := by
  rw [checkCall, run_bind_of_ok (run_scopes s)] at h
  repeat' split at h
  all_goals simp at h
  all_goals exact h.symm

theorem commaList_sound (hinner : ReadsExpression bound 1 inner) {rounds : Nat}
    {read all : List Node} (enough : s.cursor.remaining.length ≤ rounds) (le : rounds ≤ bound)
    (h : (commaList inner read rounds).run s = (.ok all, t)) :
    ∃ tokens nodes, all = read.reverse ++ nodes ∧ s.cursor.Reads tokens t.cursor ∧
      Term.Derives tokens t.cursor.current (.items nodes) ∧ t.scopes = s.scopes := by
  induction rounds generalizing s read with
  | zero => exact absurd enough (by simp [Cursor.remaining])
  | succ rounds ih =>
    simp only [commaList, run_bind_eq_ok, run_ifOperator] at h
    obtain ⟨node, u, hnode, h⟩ := h
    obtain ⟨first, reads, ⟨derives, -⟩, scopes⟩ := hinner s node u (Nat.le_trans enough le) hnode
    split at h
    next comma =>
      have passed := reads.trans (Cursor.reads_operator comma)
      have shorter := passed.length
      have fewer : u.cursor.advance.remaining.length ≤ rounds := by
        rw [List.length_append, List.length_singleton] at shorter
        omega
      obtain ⟨rest, nodes, rfl, reads', derives', scopes'⟩ := ih fewer (by omega) h
      refine ⟨first ++ [u.cursor.current] ++ rest, node :: nodes, by simp, passed.trans reads', ?_,
        scopes'.trans scopes⟩
      simpa using Term.Derives.items derives comma derives'
    next =>
      obtain ⟨rfl, rfl⟩ := run_pure_eq_ok.1 h
      exact ⟨first, [node], by simp, reads, .item derives, scopes⟩

theorem call_sound (hinner : ReadsExpression settings.bound 1 inner) {name : Token} {node : Node}
    (identifier : name.kind = .identifier) (opening : s.cursor.current.isOperator "(" = true)
    (enough : s.cursor.remaining.length ≤ settings.bound)
    (h : (call settings inner name.text).run s = (.ok node, t)) :
    ∃ tokens, s.cursor.Reads tokens t.cursor ∧
      Term.Derives (name :: tokens) t.cursor.current (.call node) ∧ t.scopes = s.scopes := by
  have passed := Cursor.reads_operator opening
  simp only [call, arguments, run_bind_eq_ok, run_previousLine, run_advance, run_current,
    run_expectOperator_eq_ok, run_pure, Prod.mk.injEq, Except.ok.injEq] at h
  obtain ⟨line, _, ⟨-, rfl⟩, _, _, ⟨-, rfl⟩, given, u, ⟨_, _, ⟨rfl, rfl⟩, harguments⟩,
    _, _, ⟨closing, rfl⟩, _, v, hcheck, rfl, rfl⟩ := h
  obtain rfl := checkCall_eq_ok hcheck
  have closed := Cursor.reads_operator closing
  split at harguments
  next =>
    obtain ⟨rfl, rfl⟩ := run_pure_eq_ok.1 harguments
    exact ⟨[s.cursor.current] ++ [s.advance.cursor.current], passed.trans closed,
      .callEmpty identifier opening closing, rfl⟩
  next =>
    obtain ⟨tokens, nodes, rfl, reads, derives, scopes⟩ :=
      commaList_sound hinner (passed.within enough) (Nat.le_refl _) harguments
    exact ⟨[s.cursor.current] ++ (tokens ++ [u.cursor.current]),
      passed.trans (reads.trans closed), .call identifier opening derives closing, scopes⟩

theorem updateBefore_eq_ok {node : Node} (step : s.cursor.current.isStep = true)
    (h : (updateBefore settings).run s = (.ok node, t)) :
    ∃ name, s.cursor.Reads [s.cursor.current, name] t.cursor ∧ name.kind = .identifier ∧
      node = .update name.text s.cursor.current.text true ∧ t.scopes = s.scopes := by
  simp only [updateBefore, run_bind_eq_ok, run_current, run_advance, run_expectIdentifier_eq_ok,
    run_pure, Prod.mk.injEq, Except.ok.injEq] at h
  obtain ⟨_, _, ⟨rfl, rfl⟩, _, _, ⟨-, rfl⟩, _, u, ⟨identifier, rfl, rfl⟩, _, v, hrequire, rfl,
    rfl⟩ := h
  obtain rfl := requireVariable_eq_ok hrequire
  have named := Cursor.reads_identifier identifier
  exact ⟨_, (Cursor.advance_reads (Token.not_eof_of_step step)).trans named, identifier, rfl, rfl⟩

theorem updateAfter_sound {name : Token} {node : Node} (identifier : name.kind = .identifier)
    (notCall : s.cursor.current.isOperator "(" = false)
    (h : (updateAfter name.text name.line).run s = (.ok node, t)) :
    ∃ tokens, s.cursor.Reads tokens t.cursor ∧
      Term.Derives (name :: tokens) t.cursor.current (.primary node) ∧ t.scopes = s.scopes := by
  rw [updateAfter, run_bind_of_ok (run_current s)] at h
  split at h
  next step =>
    simp only [run_bind_eq_ok, run_advance, run_pure, Prod.mk.injEq, Except.ok.injEq] at h
    obtain ⟨_, _, ⟨-, rfl⟩, rfl, rfl⟩ := h
    simp only [Bool.and_eq_true, beq_iff_eq] at step
    exact ⟨[s.cursor.current], Cursor.advance_reads (Token.not_eof_of_step step.1),
      .updateAfter identifier step.1 step.2, rfl⟩
  next step =>
    obtain ⟨rfl, rfl⟩ := run_pure_eq_ok.1 h
    exact ⟨[], .refl _, .variable identifier notCall (by simpa using step), rfl⟩

theorem named_sound (hinner : ReadsExpression settings.bound 1 inner) {node : Node}
    (identifier : s.cursor.current.kind = .identifier)
    (enough : s.cursor.remaining.length ≤ settings.bound)
    (h : (named settings inner).run s = (.ok node, t)) :
    ∃ tokens, s.cursor.Reads tokens t.cursor ∧
      Term.Derives tokens t.cursor.current (.primary node) ∧ t.scopes = s.scopes := by
  have passed := Cursor.reads_identifier identifier
  simp only [named, run_bind_of_ok (run_current _), run_bind_of_ok (run_advance _)] at h
  split at h
  next opening =>
    obtain ⟨tokens, reads, derives, scopes⟩ :=
      call_sound hinner identifier opening (passed.within enough) h
    exact ⟨[s.cursor.current] ++ tokens, passed.trans reads, .called derives, scopes⟩
  next notCall =>
    rw [run_bind_eq_ok] at h
    obtain ⟨_, u, hrequire, h⟩ := h
    obtain rfl := requireVariable_eq_ok hrequire
    obtain ⟨tokens, reads, derives, scopes⟩ :=
      updateAfter_sound identifier (by simpa using notCall) h
    exact ⟨[s.cursor.current] ++ tokens, passed.trans reads, derives, scopes⟩

theorem enclosed_sound (hinner : ReadsExpression bound 1 inner) {node : Node}
    (opening : s.cursor.current.isOperator "(" = true)
    (enough : s.cursor.remaining.length ≤ bound)
    (h : (enclosed inner).run s = (.ok node, t)) :
    ∃ tokens, s.cursor.Reads tokens t.cursor ∧
      Term.Derives tokens t.cursor.current (.primary node) ∧ t.scopes = s.scopes := by
  have passed := Cursor.reads_operator opening
  simp only [enclosed, run_bind_eq_ok, run_advance, run_expectOperator_eq_ok, run_pure,
    Prod.mk.injEq, Except.ok.injEq] at h
  obtain ⟨_, _, ⟨-, rfl⟩, _, u, hinside, _, _, ⟨closing, rfl⟩, rfl, rfl⟩ := h
  obtain ⟨tokens, reads, ⟨derives, -⟩, scopes⟩ :=
    hinner s.advance _ u (passed.within enough) hinside
  have closed := Cursor.reads_operator closing
  exact ⟨[s.cursor.current] ++ (tokens ++ [u.cursor.current]), passed.trans (reads.trans closed),
    .enclosed opening derives closing, scopes⟩

theorem negated_sound {node : Node} (sign : s.cursor.current.isOperator "-" = true)
    (h : negated.run s = (.ok node, t)) :
    ∃ tokens, s.cursor.Reads tokens t.cursor ∧
      Term.Derives tokens t.cursor.current (.primary node) ∧ t.scopes = s.scopes := by
  have passed := Cursor.reads_operator sign
  simp only [negated, run_bind_of_ok (run_current _), run_bind_of_ok (run_advance _)] at h
  split at h
  next numeric =>
    rw [run_bind_of_ok (run_advance _)] at h
    obtain ⟨numeral, rfl⟩ := literal_eq_ok numeric h
    exact ⟨[s.cursor.current] ++ [s.advance.cursor.current],
      passed.trans (Cursor.advance_reads (Token.not_eof_of_numeric numeric)),
      .negative sign numeral, rfl⟩
  next => simp at h

theorem primary_sound (hinner : ReadsExpression settings.bound 1 inner) :
    Sound settings.bound (primary settings inner) fun tokens follow node =>
      Term.Derives tokens follow (.primary node) := by
  intro s node t enough h
  rw [primary, run_bind_of_ok (run_current s)] at h
  have passed {kind : Token.Kind} (h : s.cursor.current.kind = kind) (ne : kind ≠ .eof) :=
    Cursor.advance_reads (Token.not_eof_of_kind h ne)
  split at h
  case h_1 kind | h_2 kind | h_3 kind =>
    rw [run_bind_of_ok (run_advance s)] at h
    obtain ⟨numeral, rfl⟩ := literal_eq_ok (by simp [kind, Token.Kind.isNumeric]) h
    exact ⟨[s.cursor.current], passed kind (by decide), .number numeral, rfl⟩
  case h_4 kind =>
    simp only [run_bind_of_ok (run_advance s), run_pure, Prod.mk.injEq, Except.ok.injEq] at h
    obtain ⟨rfl, rfl⟩ := h
    exact ⟨[s.cursor.current], passed kind (by decide), .string kind, rfl⟩
  case h_5 kind =>
    split at h
    · simp only [run_bind_of_ok (run_advance s), run_pure, Prod.mk.injEq, Except.ok.injEq] at h
      obtain ⟨rfl, rfl⟩ := h
      exact ⟨[s.cursor.current], passed kind (by decide), .true ‹_›, rfl⟩
    · split at h
      · simp only [run_bind_of_ok (run_advance s), run_pure, Prod.mk.injEq, Except.ok.injEq] at h
        obtain ⟨rfl, rfl⟩ := h
        exact ⟨[s.cursor.current], passed kind (by decide), .false ‹_›, rfl⟩
      · simp at h
  case h_6 kind => exact named_sound hinner kind enough h
  case h_7 kind =>
    split at h
    · exact enclosed_sound hinner ‹_› enough h
    · split at h
      · exact negated_sound ‹_› h
      · split at h
        next step =>
          obtain ⟨name, reads, identifier, rfl, scopes⟩ := updateBefore_eq_ok step h
          exact ⟨_, reads, .updateBefore step identifier, scopes⟩
        next => simp at h
  case h_8 => simp at h

theorem operators_sound {operand : Nat → Parser Node} {least level rounds : Nat}
    (hoperand : ∀ level ≤ 6, ReadsExpression bound (level + 1) (operand (level + 1)))
    {left node : Node} {before : List Token}
    (enough : s.cursor.remaining.length ≤ rounds) (le : rounds ≤ bound)
    (derives : Term.Derives before s.cursor.current (.expression level left))
    (loose : least ≤ level) (follows : ∀ k, s.cursor.current.precedence? = some k → k ≤ level)
    (h : (operators operand least rounds left).run s = (.ok node, t)) :
    ∃ tokens, s.cursor.Reads tokens t.cursor ∧
      (Term.Derives (before ++ tokens) t.cursor.current (.expression least node) ∧
        ∀ k, t.cursor.current.precedence? = some k → k < least) ∧ t.scopes = s.scopes := by
  -- each round takes in one operator, whose level is then that of what has been read
  induction rounds generalizing s left before level with
  | zero => exact absurd enough (by simp [Cursor.remaining])
  | succ rounds ih =>
    rw [operators, run_bind_of_ok (run_current s)] at h
    split at h
    next precedence hprecedence =>
      split at h
      next loosest =>
        obtain ⟨rfl, rfl⟩ := run_pure_eq_ok.1 h
        refine ⟨[], .refl _, ⟨by simpa using loosen loose derives, fun k hk => ?_⟩, rfl⟩
        rw [hprecedence, Option.some.injEq] at hk
        exact hk ▸ loosest
      next binds =>
        rw [run_bind_of_ok (run_advance s), run_bind_eq_ok] at h
        obtain ⟨right, u, hright, h⟩ := h
        have passed := Cursor.advance_reads (Token.not_eof_of_precedence hprecedence)
        have few := Nat.le_trans enough le
        obtain ⟨tokens, reads, ⟨derives', tight⟩, scopes⟩ :=
          hoperand precedence (precedence?_le hprecedence) s.advance right u (passed.within few)
            hright
        have grouped : Term.Derives (before ++ s.cursor.current :: tokens) u.cursor.current
            (.expression precedence
              (.binaryOperation s.cursor.current.operatorName left right)) :=
          .binary (loosen (follows _ hprecedence) derives) hprecedence derives'
        have shorter := (passed.trans reads).length
        rw [List.length_append, List.length_singleton] at shorter
        obtain ⟨rest, reads', ⟨derives'', stops⟩, scopes'⟩ :=
          ih (by omega) (by omega) grouped (by omega) (fun k hk => Nat.le_of_lt_succ (tight k hk)) h
        refine ⟨[s.cursor.current] ++ (tokens ++ rest), passed.trans (reads.trans reads'),
          ⟨?_, stops⟩, scopes'.trans scopes⟩
        simpa using derives''
    next none =>
      obtain ⟨rfl, rfl⟩ := run_pure_eq_ok.1 h
      exact ⟨[], .refl _, ⟨by simpa using loosen loose derives, by simp [none]⟩, rfl⟩

theorem nested_eq_ok {p : Parser α} {a : α}
    (h : (nested settings p).run s = (.ok a, t)) :
    ∃ u, p.run (Command.deepen.apply s) = (.ok a, u) ∧ t = Command.rise.apply u := by
  rw [run_nested] at h
  split at h
  · simp at h
  · rw [run_between, Prod.mk.injEq] at h
    exact ⟨_, Prod.ext h.1 rfl, h.2.symm⟩

theorem expression_sound (settings : Settings) {levels least : Nat} (le : least ≤ 7) :
    ReadsExpression settings.bound least (expression settings levels least) := by
  induction levels generalizing least with
  | zero =>
    intro s node t _ h
    simp [expression] at h
  | succ levels ih =>
    intro s node t enough h
    obtain ⟨u, inside, rfl⟩ := nested_eq_ok h
    rw [run_bind_eq_ok] at inside
    obtain ⟨left, v, hleft, hoperators⟩ := inside
    obtain ⟨first, reads, derives, scopes⟩ :=
      primary_sound (ih (by decide)) (Command.deepen.apply s) left v enough hleft
    obtain ⟨tokens, reads', derives', scopes'⟩ :=
      operators_sound (fun level le => ih (Nat.succ_le_succ le)) (reads.within enough)
        (Nat.le_refl _) derives.operand le (fun k hk => Nat.le_succ_of_le (precedence?_le hk))
        hoperators
    exact ⟨first ++ tokens, reads.trans reads', derives', scopes'.trans scopes⟩

end DeskScript.Parser
