import DeskScript.Proofs.Semicolon.Departing

/-!
A run with a semicolon put in. The tokens of the second run have one semicolon more than those of
the first. Up to the place of the semicolon both runs see the same tokens, and behind it they do so
again. At the place itself the first run may look at a token that the second does not see; where a
statement ends there without a semicolon, the second run passes its semicolon and is behind the
place as well. `Insertion.At` says what a parser does on both sides. It promises nothing of a first
run that passes the place in another way, as long as no statement has ended there.
-/

namespace DeskScript

/-- A semicolon that is put in before the rest of a list of tokens. -/
structure Insertion where
  settings : Parser.Settings
  semicolon : Token
  rest : List Token
  sign : semicolon.isOperator ";" = true

namespace Insertion

open DeskScript.Parser

variable (ins : Insertion)

structure Matched (s s' : State) : Prop where
  few : s.cursor.remaining.length ≤ ins.settings.bound
  depth : s.depth = s'.depth
  scopes : s.scopes = s'.scopes

structure Before (s s' : State) : Prop extends ins.Matched s s' where
  tokens : ∃ ahead, (∀ token ∈ ahead, token.isEof = false) ∧
    s.cursor.remaining = ahead ++ ins.rest ∧
    s'.cursor.remaining = ahead ++ ins.semicolon :: ins.rest

structure Behind (s s' : State) : Prop extends ins.Matched s s' where
  tokens : s.cursor.remaining = s'.cursor.remaining

def Abreast (s s' : State) : Prop :=
  ins.Before s s' ∨ ins.Behind s s'

def Here (s : State) : Prop :=
  s.cursor.remaining.length = ins.rest.length

def Level (s s' : State) : Prop :=
  ins.Behind s s' ∨ ins.Before s s' ∧ ¬ ins.Here s

def Past (s : State) : Prop :=
  s.cursor.remaining.length < ins.rest.length

variable {α β : Type}

/-- At the place a statement of the first run ends without a semicolon. -/
def Marked (p : Parser α) (s : State) : Prop :=
  p.BareAt (fun cursor => cursor.remaining.length = ins.rest.length) s

/--
The second parser does what the first does when that succeeds. Behind the place this is all. Before
it, a first run on which no statement ends at the place may also go past it, or stop there with a
value that is not good; and from the place on no statement has ended there.
-/
def At (good : α → Prop) (p p' : Parser α) (s s' : State) : Prop :=
  (ins.Behind s s' → ∀ a t, p.run s = (.ok a, t) →
    ∃ t', p'.run s' = (.ok a, t') ∧ ins.Behind t t') ∧
  (ins.Before s s' → (ins.Here s → ¬ ins.Marked p s) ∧
    ∀ a t, p.run s = (.ok a, t) →
      (∃ t', p'.run s' = (.ok a, t') ∧
        (ins.Behind t t' ∨ ins.Before t t' ∧ ¬ ins.Marked p s)) ∨
      ¬ ins.Marked p s ∧ (ins.Past t ∨ ins.Here t ∧ ¬ good a))

def Along (p : Parser α) : Prop :=
  ∀ s s', ins.Abreast s s' → ins.At (fun _ => True) p p s s'

variable {ins} {s s' t : State} {p p' q q' : Parser α} {good : α → Prop}

theorem semicolon_goesOn : ins.semicolon.isEof = false :=
  Token.not_eof_of_operator ins.sign

theorem advance_remaining (goesOn : s.cursor.current.isEof = false) :
    s.cursor.remaining = s.cursor.current :: s.advance.cursor.remaining :=
  (Cursor.advance_reads goesOn).remaining

theorem Matched.advance (h : ins.Matched s s') : ins.Matched s.advance s'.advance := by
  obtain ⟨tokens, reads⟩ := s.cursor.advance_reads_some
  exact ⟨reads.within h.few, h.depth, h.scopes⟩

namespace Before

theorem current_of_here (h : ins.Before s s') (here : ins.Here s) :
    s.cursor.remaining = ins.rest ∧ s'.cursor.current = ins.semicolon ∧
      s'.advance.cursor.remaining = ins.rest := by
  obtain ⟨ahead, -, first, second⟩ := h.tokens
  obtain rfl : ahead = [] := by
    have length := congrArg List.length first
    rw [List.length_append, here] at length
    exact List.eq_nil_of_length_eq_zero (by omega)
  have current : s'.cursor.current = ins.semicolon := (List.cons.inj second).1
  have passed := advance_remaining (s := s') (by rw [current]; exact semicolon_goesOn)
  rw [second] at passed
  exact ⟨first, current, (List.cons.inj passed).2.symm⟩

theorem step (h : ins.Before s s') (ahead : ¬ ins.Here s) :
    s.cursor.current.isEof = false ∧ s'.cursor.current = s.cursor.current ∧
      ins.Before s.advance s'.advance := by
  obtain ⟨tokens, before, first, second⟩ := h.tokens
  cases tokens with
  | nil => exact absurd (congrArg List.length first) ahead
  | cons token tokens =>
    have ⟨goesOn, later⟩ := List.forall_mem_cons.1 before
    obtain rfl : s.cursor.current = token := (List.cons.inj first).1
    have current : s'.cursor.current = s.cursor.current := (List.cons.inj second).1
    have passed := advance_remaining goesOn
    have passed' := advance_remaining (current ▸ goesOn)
    rw [first] at passed
    rw [second] at passed'
    refine ⟨goesOn, current, h.toMatched.advance, tokens, later, ?_, ?_⟩
    · exact (List.cons.inj passed).2.symm
    · exact (List.cons.inj passed').2.symm

end Before

theorem Behind.current_eq (h : ins.Behind s s') : s'.cursor.current = s.cursor.current :=
  (List.cons.inj h.tokens).1.symm

theorem Behind.advance (h : ins.Behind s s') : ins.Behind s.advance s'.advance := by
  refine ⟨h.toMatched.advance, ?_⟩
  have same := h.tokens
  cases ended : s.cursor.current.isEof with
  | true =>
    rw [State.advance_cursor, State.advance_cursor, Cursor.advance_of_eof ended,
      Cursor.advance_of_eof (by rw [h.current_eq, ended]), same]
  | false =>
    rw [advance_remaining ended, advance_remaining (s := s') (by rw [h.current_eq, ended])] at same
    exact (List.cons.inj same).2

theorem Level.abreast (h : ins.Level s s') : ins.Abreast s s' :=
  h.symm.imp_left And.left

theorem Level.current_eq (h : ins.Level s s') : s'.cursor.current = s.cursor.current :=
  h.elim Behind.current_eq fun ⟨before, ahead⟩ => (before.step ahead).2.1

theorem Level.advance (h : ins.Level s s') : ins.Abreast s.advance s'.advance :=
  h.elim (fun behind => .inr behind.advance) fun ⟨before, ahead⟩ => .inl (before.step ahead).2.2

theorem Abreast.level_or_here (h : ins.Abreast s s') :
    ins.Level s s' ∨ ins.Before s s' ∧ ins.Here s := by
  rcases h with before | behind
  · by_cases here : ins.Here s
    · exact .inr ⟨before, here⟩
    · exact .inl (.inr ⟨before, here⟩)
  · exact .inl (.inl behind)

theorem Abreast.goesOn (h : ins.Abreast s s') (goesOn : s.cursor.current.isEof = false) :
    s'.cursor.current.isEof = false := by
  rcases h.level_or_here with level | ⟨before, here⟩
  · rw [level.current_eq, goesOn]
  · rw [(before.current_of_here here).2.1, semicolon_goesOn]

theorem Abreast.matched (h : ins.Abreast s s') : ins.Matched s s' :=
  h.elim Before.toMatched Behind.toMatched

theorem Matched.applyAll {given : List Command} (still : Command.advance ∉ given)
    (h : ins.Matched s s') :
    ins.Matched (Command.applyAll given s) (Command.applyAll given s') := by
  induction given generalizing s s' with
  | nil => exact h
  | cons command rest ih =>
    rw [List.mem_cons, not_or] at still
    refine ih still.2 ?_
    cases command with
    | advance => exact absurd rfl still.1
    | deepen => exact ⟨h.few, congrArg (· + 1) h.depth, h.scopes⟩
    | rise => exact ⟨h.few, congrArg (· - 1) h.depth, h.scopes⟩
    | note event => exact ⟨h.few, h.depth, h.scopes⟩
    | scope change => exact ⟨h.few, h.depth, congrArg change.apply h.scopes⟩

theorem Before.applyAll {given : List Command} (still : Command.advance ∉ given)
    (h : ins.Before s s') : ins.Before (Command.applyAll given s) (Command.applyAll given s') := by
  refine ⟨h.toMatched.applyAll still, ?_⟩
  rw [applyAll_cursor still, applyAll_cursor still]
  exact h.tokens

theorem Behind.applyAll {given : List Command} (still : Command.advance ∉ given)
    (h : ins.Behind s s') : ins.Behind (Command.applyAll given s) (Command.applyAll given s') := by
  refine ⟨h.toMatched.applyAll still, ?_⟩
  rw [applyAll_cursor still, applyAll_cursor still]
  exact h.tokens

theorem Abreast.applyAll {given : List Command} (still : Command.advance ∉ given)
    (h : ins.Abreast s s') : ins.Abreast (Command.applyAll given s) (Command.applyAll given s') :=
  h.imp (Before.applyAll still) (Behind.applyAll still)

theorem Here.past (here : ins.Here s)
    (fewer : t.cursor.remaining.length < s.cursor.remaining.length) : ins.Past t :=
  Nat.lt_of_lt_of_eq fewer here

theorem past_of_run (past : ins.Past s) {r : Except Diagnostic α} (ran : p.run s = (r, t)) :
    ins.Past t := by
  have le := run_remaining_le p s
  rw [ran] at le
  exact Nat.lt_of_le_of_lt le past

theorem not_marked_of_past (past : ins.Past s) : ¬ ins.Marked p s := by
  induction p generalizing s with
  | done a => exact nofun
  | failed e => exact nofun
  | look next ih => exact ih s.view past
  | perform command next ih =>
    rintro (⟨-, here⟩ | later)
    · exact Nat.ne_of_lt past here
    · obtain ⟨tokens, reads⟩ := apply_reads command s
      refine ih ?_ later
      exact Nat.lt_of_le_of_lt (reads.within (Nat.le_refl _)) past

theorem Here.unmarked (here : ins.Here s) (departs : p.Departs s) : ¬ ins.Marked p s := by
  induction p generalizing s with
  | done a => exact nofun
  | failed e => exact nofun
  | look next ih => exact ih s.view here departs
  | perform command next ih =>
    rcases departs with ⟨rfl, goesOn⟩ | ⟨still, plain, later⟩
    · rintro (⟨⟨⟩, -⟩ | marked)
      exact not_marked_of_past (here.past (advance_fewer goesOn)) marked
    · rintro (⟨same, -⟩ | marked)
      · exact plain same
      · refine ih ?_ later marked
        cases command with
        | advance => exact absurd rfl still
        | deepen | rise | note | scope => exact here

theorem exists_before (left : s.cursor.remaining = ins.rest)
    (few : s.cursor.remaining.length ≤ ins.settings.bound) : ∃ s', ins.Before s s' := by
  obtain ⟨token, mem, ended⟩ := s.cursor.ending
  let cursor : Cursor := ⟨s.cursor.passed, ins.semicolon, s.cursor.remaining, s.cursor.unended,
    token, List.mem_cons_of_mem _ mem, ended⟩
  refine ⟨{ s with cursor }, ⟨few, rfl, rfl⟩, [], List.forall_mem_nil _, left, ?_⟩
  rw [List.nil_append, ← left]
  rfl

theorem Before.exists_of_run (h : ins.Before s s') {r : Except Diagnostic α}
    (ran : p.run s = (r, t)) (here : ins.Here t) : ∃ t', ins.Before t t' := by
  obtain ⟨tokens, reads⟩ := run_reads p s
  rw [ran] at reads
  obtain ⟨ahead, -, first, -⟩ := h.tokens
  have split : tokens ++ t.cursor.remaining = ahead ++ ins.rest := reads.remaining.symm.trans first
  exact exists_before (List.append_inj_right' split here) (reads.within h.few)

theorem here_or_past (here : ins.Here s) {r : Except Diagnostic α} (ran : p.run s = (r, t)) :
    ins.Here t ∨ ins.Past t := by
  have le := run_remaining_le p s
  rw [ran] at le
  exact (Nat.lt_or_eq_of_le (here ▸ le)).symm

theorem marked_bind {f : α → Parser β} :
    ins.Marked (p >>= f) s ↔
      ins.Marked p s ∨ ∃ a t, p.run s = (.ok a, t) ∧ ins.Marked (f a) t :=
  bareAt_bind

theorem marked_bind_of_ok {f : α → Parser β} {a : α} (ran : p.run s = (.ok a, t)) :
    ins.Marked (p >>= f) s ↔ ins.Marked p s ∨ ins.Marked (f a) t := by
  rw [marked_bind]
  refine or_congr_right ⟨?_, fun marked => ⟨a, t, ran, marked⟩⟩
  rintro ⟨b, u, ran', marked⟩
  obtain ⟨same, rfl⟩ := Prod.mk.inj (ran.symm.trans ran')
  obtain rfl := Except.ok.inj same
  exact marked

theorem At.bind {f f' : α → Parser β} {good' : β → Prop} (hp : ins.At good p p' s s')
    (hf : ∀ a t t', p.run s = (.ok a, t) → ins.Abreast t t' → ins.At good' (f a) (f' a) t t')
    (stops : ∀ a t b u, p.run s = (.ok a, t) → ¬ good a → ins.Here t →
      (f a).run t = (.ok b, u) → ins.Here u → ¬ good' b) :
    ins.At good' (p >>= f) (p' >>= f') s s' := by
  refine ⟨fun behind b u ran => ?_, fun before => ⟨fun here => ?_, fun b u ran => ?_⟩⟩
  · obtain ⟨a, t, first, second⟩ := run_bind_eq_ok.1 ran
    obtain ⟨t', first', there⟩ := hp.1 behind a t first
    obtain ⟨u', second', last⟩ := (hf a t t' first (.inr there)).1 there b u second
    exact ⟨u', run_bind_eq_ok.2 ⟨a, t', first', second'⟩, last⟩
  · rw [marked_bind]
    rintro (marked | ⟨a, t, first, marked⟩)
    · exact (hp.2 before).1 here marked
    · rcases here_or_past here first with still | past
      · obtain ⟨t', there⟩ := before.exists_of_run first still
        exact ((hf a t t' first (.inl there)).2 there).1 still marked
      · exact not_marked_of_past past marked
  · obtain ⟨a, t, first, second⟩ := run_bind_eq_ok.1 ran
    rw [marked_bind_of_ok first, not_or]
    -- after the first part the runs are behind the place, before it, or the first one is past it
    rcases (hp.2 before).2 a t first with ⟨t', first', behind | ⟨there, unmarked⟩⟩ |
      ⟨unmarked, past | ⟨here, bad⟩⟩
    · obtain ⟨u', second', last⟩ := (hf a t t' first (.inr behind)).1 behind b u second
      exact .inl ⟨u', run_bind_eq_ok.2 ⟨a, t', first', second'⟩, .inl last⟩
    · rcases ((hf a t t' first (.inl there)).2 there).2 b u second with
        ⟨u', second', last⟩ | ⟨unmarked', ends⟩
      · exact .inl ⟨u', run_bind_eq_ok.2 ⟨a, t', first', second'⟩,
          last.imp_right fun ⟨last, unmarked'⟩ => ⟨last, unmarked, unmarked'⟩⟩
      · exact .inr ⟨⟨unmarked, unmarked'⟩, ends⟩
    · exact .inr ⟨⟨unmarked, not_marked_of_past past⟩, .inl (past_of_run past second)⟩
    · obtain ⟨t', there⟩ := before.exists_of_run first here
      have unmarked' := ((hf a t t' first (.inl there)).2 there).1 here
      refine .inr ⟨⟨unmarked, unmarked'⟩, ?_⟩
      rcases here_or_past here second with still | past
      · exact .inr ⟨still, stops a t b u first bad here second still⟩
      · exact .inl past

theorem At.then {f f' : α → Parser β} {good' : β → Prop} (hp : ins.At (fun _ => True) p p' s s')
    (hf : ∀ a t t', ins.Abreast t t' → ins.At good' (f a) (f' a) t t') :
    ins.At good' (p >>= f) (p' >>= f') s s' :=
  hp.bind (fun a t t' _ => hf a t t') fun _ _ _ _ _ bad => absurd trivial bad

theorem At.leaving {f f' : α → Parser β} {good' : β → Prop} (hp : ins.At good p p' s s')
    (takes : ∀ a t, p.run s = (.ok a, t) → ¬ good a → (f a).Takes t)
    (hf : ∀ a t t', p.run s = (.ok a, t) → ins.Abreast t t' → ins.At good' (f a) (f' a) t t') :
    ins.At good' (p >>= f) (p' >>= f') s s' := by
  refine hp.bind hf fun a t b u first bad here second still => ?_
  have fewer := takes a t first bad b u second
  exact absurd (here.past fewer) (Nat.not_lt_of_le (Nat.le_of_eq still.symm))

theorem Along.then {f : α → Parser β} (hp : ins.Along p) (hf : ∀ a, ins.Along (f a)) :
    ins.Along (p >>= f) :=
  fun s s' abreast => (hp s s' abreast).then hf

theorem At.mono {good' : α → Prop} (h : ins.At good p p' s s') (le : ∀ a, good' a → good a) :
    ins.At good' p p' s s' := by
  refine ⟨h.1, fun before => ⟨(h.2 before).1, fun a t ran => ((h.2 before).2 a t ran).imp_right ?_⟩⟩
  exact fun ⟨unmarked, ends⟩ =>
    ⟨unmarked, ends.imp_right fun ⟨here, bad⟩ => ⟨here, fun fine => bad (le a fine)⟩⟩

theorem Before.not_behind (h : ins.Before s s') : ¬ ins.Behind s s' := by
  intro behind
  obtain ⟨ahead, -, first, second⟩ := h.tokens
  have same := congrArg List.length behind.tokens
  rw [first, second] at same
  simp at same

theorem At.of_past (before : ins.Before s s') (unmarked : ¬ ins.Marked p s)
    (ends : ∀ a t, p.run s = (.ok a, t) → ins.Past t ∨ ins.Here t ∧ ¬ good a) :
    ins.At good p p' s s' :=
  ⟨fun behind => absurd behind before.not_behind,
    fun _ => ⟨fun _ => unmarked, fun a t ran => .inr ⟨unmarked, ends a t ran⟩⟩⟩

theorem At.current {f f' : Token → Parser α}
    (h : ins.At good (f s.cursor.current) (f' s'.cursor.current) s s') :
    ins.At good (current >>= f) (current >>= f') s s' :=
  h

theorem At.next? {f f' : Option Token → Parser α}
    (h : ins.At good (f s.cursor.next?) (f' s'.cursor.next?) s s') :
    ins.At good (next? >>= f) (next? >>= f') s s' :=
  h

theorem At.previousLine {f f' : Nat → Parser α}
    (h : ∀ line line', ins.At good (f line) (f' line') s s') :
    ins.At good (previousLine >>= f) (previousLine >>= f') s s' :=
  h _ _

theorem At.scopes {f f' : Tracker → Parser α} (abreast : ins.Abreast s s')
    (h : ins.At good (f s.scopes) (f' s.scopes) s s') :
    ins.At good (scopes >>= f) (scopes >>= f') s s' := by
  have same : ins.At good (f s.scopes) (f' s'.scopes) s s' := abreast.matched.scopes ▸ h
  exact same

theorem At.ite {c c' : Prop} [Decidable c] [Decidable c'] (same : c ↔ c')
    (hp : c → ins.At good p p' s s') (hq : ¬c → ins.At good q q' s s') :
    ins.At good (if c then p else q) (if c' then p' else q') s s' := by
  by_cases h : c
  · rw [if_pos h, if_pos (same.1 h)]
    exact hp h
  · rw [if_neg h, if_neg (fun h' => h (same.2 h'))]
    exact hq h

theorem Along.ite {c : Prop} [Decidable c] (hp : ins.Along p) (hq : ins.Along q) :
    ins.Along (if c then p else q) :=
  fun s s' abreast => .ite .rfl (fun _ => hp s s' abreast) fun _ => hq s s' abreast

theorem at_pure (a : α) : ins.At good (pure a) (pure a) s s' := by
  refine ⟨fun behind b t ran => ?_, fun before => ⟨fun _ => nofun, fun b t ran => ?_⟩⟩
  · obtain ⟨rfl, rfl⟩ := run_pure_eq_ok.1 ran
    exact ⟨s', rfl, behind⟩
  · obtain ⟨rfl, rfl⟩ := run_pure_eq_ok.1 ran
    exact .inl ⟨s', rfl, .inr ⟨before, nofun⟩⟩

theorem along_pure (a : α) : ins.Along (pure a) :=
  fun _ _ _ => at_pure a

theorem at_failed {e : Diagnostic} : ins.At good (.failed e) p' s s' :=
  ⟨fun _ _ _ => nofun, fun _ => ⟨fun _ => nofun, fun _ _ => nofun⟩⟩

theorem at_fail (cause : Diagnostic.Cause) (line : Nat) :
    ins.At good (fail cause line) p' s s' :=
  at_failed

theorem at_unexpected (what : Expectation) : ins.At good (unexpected what) p' s s' :=
  at_failed (e := ⟨.expected what s.cursor.current.kind s.cursor.current.text,
    s.cursor.current.line⟩)

theorem at_tooDeep (settings : Settings) : ins.At good (tooDeep settings) p' s s' :=
  at_failed (e := ⟨.tooDeep settings.limit, s.cursor.current.line⟩)

theorem at_perform {command command' : Command} {good : Unit → Prop}
    (plain : command ≠ .note bareEnd)
    (before : ins.Before s s' → ins.Before (command.apply s) (command'.apply s'))
    (behind : ins.Behind s s' → ins.Behind (command.apply s) (command'.apply s')) :
    ins.At good (.perform command (.done ())) (.perform command' (.done ())) s s' := by
  have unmarked : ¬ ins.Marked (.perform command (.done ())) s := by
    rintro (⟨same, -⟩ | ⟨⟨⟩⟩)
    exact plain same
  refine ⟨fun h _ t ran => ?_, fun h => ⟨fun _ => unmarked, fun _ t ran => ?_⟩⟩
  · obtain ⟨-, rfl⟩ := Prod.mk.inj ran
    exact ⟨_, rfl, behind h⟩
  · obtain ⟨-, rfl⟩ := Prod.mk.inj ran
    exact .inl ⟨_, rfl, .inr ⟨before h, unmarked⟩⟩

theorem at_note {event event' : Journal.Event} {good : Unit → Prop} (other : event ≠ bareEnd) :
    ins.At good (note event) (note event') s s' :=
  at_perform (fun same => other (Command.note.inj same))
    (fun h => ⟨⟨h.few, h.depth, h.scopes⟩, h.tokens⟩)
    fun h => ⟨⟨h.few, h.depth, h.scopes⟩, h.tokens⟩

theorem along_change (change : Tracker.Change) : ins.Along (Parser.change change) := by
  have still : Command.advance ∉ [.scope change] := by simp
  exact fun s s' _ => at_perform nofun (Before.applyAll still) (Behind.applyAll still)

theorem not_marked_advance : ¬ ins.Marked advance s := by
  rintro (⟨⟨⟩, -⟩ | ⟨⟨⟩⟩)

theorem at_advance {good : Unit → Prop} : ins.At good advance advance s s' := by
  have unmarked : ¬ ins.Marked advance s := not_marked_advance
  refine ⟨fun behind a t ran => ?_, fun before => ⟨fun _ => unmarked, fun a t ran => ?_⟩⟩
  · obtain ⟨-, rfl⟩ := Prod.mk.inj ran
    exact ⟨_, rfl, behind.advance⟩
  · obtain ⟨-, rfl⟩ := Prod.mk.inj ran
    by_cases here : ins.Here s
    · cases ended : s.cursor.current.isEof with
      | false => exact .inr ⟨unmarked, .inl (here.past (advance_fewer ended))⟩
      | true =>
        -- the first run stays at the end of the file, and the second one passes the semicolon
        obtain ⟨left, -, left'⟩ := before.current_of_here here
        refine .inl ⟨_, rfl, .inl ⟨before.toMatched.advance, ?_⟩⟩
        change s.advance.cursor.remaining = s'.advance.cursor.remaining
        rw [left', State.advance_cursor, Cursor.advance_of_eof ended, left]
    · exact .inl ⟨_, rfl, .inr ⟨(before.step here).2.2, unmarked⟩⟩

theorem at_between {before after : List Command} (opens : Command.advance ∉ before)
    (closes : Command.advance ∉ after) (plain : .note bareEnd ∉ before)
    (plain' : .note bareEnd ∉ after)
    (h : ins.At good p p' (Command.applyAll before s) (Command.applyAll before s')) :
    ins.At good (between before p after) (between before p' after) s s' := by
  have marked : ins.Marked (between before p after) s ↔ ins.Marked p (Command.applyAll before s) :=
    bareAt_between plain plain'
  refine ⟨fun behind a t ran => ?_, fun ahead => ?_⟩
  · obtain ⟨u, inside, rfl⟩ := run_between_eq_ok.1 ran
    obtain ⟨u', inside', there⟩ := h.1 (behind.applyAll opens) a u inside
    exact ⟨_, run_between_eq_ok.2 ⟨u', inside', rfl⟩, there.applyAll closes⟩
  have ⟨late, outcome⟩ := h.2 (ahead.applyAll opens)
  rw [marked]
  rw [Here, applyAll_cursor opens] at late
  refine ⟨late, fun a t ran => ?_⟩
  obtain ⟨u, inside, rfl⟩ := run_between_eq_ok.1 ran
  rcases outcome a u inside with ⟨u', inside', there⟩ | ⟨unmarked, ends⟩
  · refine .inl ⟨_, run_between_eq_ok.2 ⟨u', inside', rfl⟩, there.imp (Behind.applyAll closes) ?_⟩
    exact fun ⟨there, unmarked⟩ => ⟨there.applyAll closes, unmarked⟩
  · rw [Past, Here, applyAll_cursor closes]
    exact .inr ⟨unmarked, ends⟩

theorem at_nested (settings : Settings) (abreast : ins.Abreast s s')
    (h : ∀ s s', ins.Abreast s s' → ins.At good p p' s s') :
    ins.At good (nested settings p) (nested settings p') s s' := by
  have still : Command.advance ∉ [.deepen] := by simp
  have inside := h _ _ (abreast.applyAll still)
  have compared : ins.At good (if settings.limit ≤ s.depth then tooDeep settings
      else between [.deepen] p [.rise]) (if settings.limit ≤ s'.depth then tooDeep settings
      else between [.deepen] p' [.rise]) s s' := by
    refine .ite (by rw [abreast.matched.depth]) (fun _ => at_tooDeep settings) fun _ => ?_
    exact at_between still (by simp) (by simp) (by simp) inside
  exact compared

theorem along_nested (settings : Settings) (h : ins.Along p) : ins.Along (nested settings p) :=
  fun _ _ abreast => at_nested settings abreast h

theorem at_settled {p p' : Parser Node} {good : Node → Prop} (h : ins.At good p p' s s') :
    ins.At good p.settled p'.settled s s' := by
  have marked : ins.Marked p.settled s ↔ ins.Marked p s := bareAt_settled
  refine ⟨fun behind a t ran => ?_, fun before => ?_⟩
  · obtain ⟨t', ran', there⟩ := h.1 behind a t (run_settled_eq_ok.1 ran)
    exact ⟨t', run_settled_eq_ok.2 ran', there⟩
  have ⟨late, outcome⟩ := h.2 before
  rw [marked]
  refine ⟨late, fun a t ran => (outcome a t (run_settled_eq_ok.1 ran)).imp_left ?_⟩
  exact fun ⟨t', ran', there⟩ => ⟨t', run_settled_eq_ok.2 ran', there⟩

theorem At.lost (before : ins.Before s s') (here : ins.Here s) (departs : p.Departs s) :
    ins.At good p p' s s' :=
  .of_past before (here.unmarked departs) fun _ _ ran => .inl (here.past (departs.takes _ _ ran))

theorem At.departing (abreast : ins.Abreast s s') (departs : p.Departs s)
    (h : ins.Level s s' → ins.At good p p' s s') : ins.At good p p' s s' :=
  abreast.level_or_here.elim h fun ⟨before, here⟩ => .lost before here departs

theorem At.test (test : Token → Bool) (p : Token → Parser α) (abreast : ins.Abreast s s')
    (other : test ins.semicolon = false)
    (departs : test s.cursor.current = true → (p s.cursor.current).Departs s)
    (taken : test s.cursor.current = true →
      ins.At good (p s.cursor.current) (p s.cursor.current) s s')
    (passed : ins.At good q q s s') :
    ins.At good (if test s.cursor.current then p s.cursor.current else q)
      (if test s'.cursor.current then p s'.cursor.current else q) s s' := by
  rcases abreast.level_or_here with level | ⟨before, here⟩
  · rw [level.current_eq]
    exact .ite .rfl taken fun _ => passed
  · rw [(before.current_of_here here).2.1,
      if_neg (c := test ins.semicolon = true) (by simp [other])]
    split
    next passes => exact .lost before here (departs passes)
    next => exact passed

theorem At.stop {test : Token → Bool} {a : α} {f : Token → Parser α}
    (abreast : ins.Abreast s s') (other : test ins.semicolon = false)
    (h : ins.At (fun _ => False) (f s.cursor.current) (f s'.cursor.current) s s') :
    ins.At (fun _ => False) (Parser.current >>= fun token => if test token then pure a else f token)
      (Parser.current >>= fun token => if test token then pure a else f token) s s' := by
  refine At.current ?_
  rcases abreast.level_or_here with level | ⟨before, here⟩
  · rw [level.current_eq] at h ⊢
    exact .ite .rfl (fun _ => at_pure a) fun _ => h
  · rw [(before.current_of_here here).2.1] at h ⊢
    rw [if_neg (c := test ins.semicolon = true) (by simp [other])]
    split
    · refine .of_past before nofun fun b t ran => .inr ⟨?_, id⟩
      obtain ⟨-, rfl⟩ := run_pure_eq_ok.1 ran
      exact here
    · exact h

theorem At.peek {test : Token → Bool} {f : Unit → Parser α} (level : ins.Level s s')
    (goesOn : s.cursor.current.isEof = false) (other : test ins.semicolon = false)
    (departs : test s.advance.cursor.current = true → (f ()).Departs s.advance)
    (taken : test s.advance.cursor.current = true → ∀ t', ins.Level s.advance t' →
      ins.At good (f ()) (f ()) s.advance t')
    (passed : ins.At good q q' s s') :
    ins.At good (if s.cursor.next?.any test then (Parser.advance >>= f) else q)
      (if s'.cursor.next?.any test then (Parser.advance >>= f) else q') s s' := by
  rw [Cursor.next?_eq_some goesOn, Cursor.next?_eq_some (level.abreast.goesOn goesOn),
    Option.any_some, Option.any_some, ← State.advance_cursor, ← State.advance_cursor]
  rcases level.advance.level_or_here with ahead | ⟨before', here'⟩
  · rw [ahead.current_eq]
    refine .ite .rfl (fun passes => ?_) fun _ => passed
    have step : ins.At (fun _ => True) advance advance s s' := at_advance
    refine step.leaving (fun _ _ _ bad => absurd trivial bad) fun _ t t' ran there => ?_
    obtain ⟨-, rfl⟩ := Prod.mk.inj ran
    exact .departing there (departs passes) (taken passes t')
  · -- the first run takes the token before the place and the one at it
    have before : ins.Before s s' :=
      level.elim (fun behind => absurd behind.advance before'.not_behind) And.left
    rw [(before'.current_of_here here').2.1,
      if_neg (c := test ins.semicolon = true) (by simp [other])]
    split
    next passes =>
      refine .of_past before ?_ fun a t ran => ?_
      · rw [marked_bind_of_ok (run_advance s), not_or]
        exact ⟨not_marked_advance, here'.unmarked (departs passes)⟩
      · rw [run_bind_of_ok (run_advance s)] at ran
        exact .inl (here'.past ((departs passes).takes _ _ ran))
    next => exact passed

theorem not_operator {sign : String} (other : sign ≠ ";") :
    ins.semicolon.isOperator sign = false := by
  rw [Bool.eq_false_iff]
  intro here
  exact other ((Token.isOperator_iff.1 here).2.symm.trans (Token.isOperator_iff.1 ins.sign).2)

theorem not_keyword (word : String) : ins.semicolon.isKeyword word = false := by
  simp [Token.isKeyword, (Token.isOperator_iff.1 ins.sign).1]

theorem along_accept {test : Token → Bool} (other : test ins.semicolon = false)
    (goesOn : ∀ {token}, test token = true → token.isEof = false) :
    ins.Along (accept test) := by
  intro s s' abreast
  refine At.current (.test test (fun _ => do advance; return true) abreast other ?_ ?_ ?_)
  · exact fun passes => .of_advance (goesOn passes)
  · exact fun _ => at_advance.then fun _ _ _ _ => at_pure true
  · exact at_pure false

theorem along_acceptOperator {sign : String} (other : sign ≠ ";") :
    ins.Along (acceptOperator sign) :=
  along_accept (not_operator other) Token.not_eof_of_operator

theorem along_acceptKeyword (word : String) : ins.Along (acceptKeyword word) :=
  along_accept (not_keyword word) Token.not_eof_of_keyword

theorem along_expectOperator {sign : String} (other : sign ≠ ";") (what : Expectation) :
    ins.Along (expectOperator sign what) :=
  (along_acceptOperator other).then fun _ => .ite (along_pure ()) fun _ _ _ => at_unexpected what

theorem along_expectKeyword (word : String) (what : Expectation) :
    ins.Along (expectKeyword word what) :=
  (along_acceptKeyword word).then fun _ => .ite (along_pure ()) fun _ _ _ => at_unexpected what

theorem along_expectIdentifier (what : Expectation) : ins.Along (expectIdentifier what) := by
  intro s s' abreast
  refine .departing abreast (expectIdentifier_departs what) fun level => At.current ?_
  rw [level.current_eq]
  refine .ite .rfl (fun _ => ?_) fun _ => at_unexpected what
  exact at_advance.then fun _ _ _ _ => at_pure _

theorem along_commaList {item : Parser α} (h : ins.Along item) (read : List α) (rounds : Nat) :
    ins.Along (commaList item read rounds) := by
  induction rounds generalizing read with
  | zero => exact along_pure _
  | succ rounds ih =>
    refine h.then fun next => (along_acceptOperator (by decide)).then fun _ => ?_
    exact .ite (ih _) (along_pure _)

end Insertion

end DeskScript
