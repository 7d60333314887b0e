import DeskScript.Proofs.Parser.Progress

/-!
Two runs side by side. The tokens of the runs may differ in how reserved words are spelt and in the
numbers of lines, as a `Likeness` allows, and they are compared only as far as the first run comes.
`Twins.Alike` relates two parsers whose runs stay abreast of one another. Values that go from one
part of a rule to the next are related too, since a token or a line is not the same on both sides.
-/

namespace DeskScript

/--
What may differ between two tokens of one sort: reserved words are the same up to the case of their
letters, and lines are told apart on one side just as on the other.
-/
structure Likeness where
  text : Token.Kind → String → String → Prop
  line : Nat → Nat → Prop
  exact : ∀ {kind a b}, text kind a b → kind ≠ .keyword → a = b
  upper : ∀ {kind a b}, text kind a b → Text.upper a = Text.upper b
  apart : ∀ {a a' b b'}, line a a' → line b b' → (a = b ↔ a' = b')

namespace Likeness

variable (like : Likeness)

structure Lexemes (t t' : Token) : Prop where
  kind : t.kind = t'.kind
  text : like.text t.kind t.text t'.text

structure Tokens (t t' : Token) : Prop extends Lexemes like t t' where
  line : like.line t.line t'.line

variable {like} {t t' : Token}

theorem line_beq_eq {a a' b b' : Nat} (h : like.line a a') (k : like.line b b') :
    (a == b) = (a' == b') := by
  rw [Bool.beq_eq_decide_eq, Bool.beq_eq_decide_eq]
  simp only [like.apart h k]

namespace Lexemes

variable (h : like.Lexemes t t')
include h

theorem text_eq (plain : t.kind ≠ .keyword) : t.text = t'.text :=
  like.exact h.text plain

theorem upper_eq : Text.upper t.text = Text.upper t'.text :=
  like.upper h.text

theorem isEof_eq : t.isEof = t'.isEof := by
  rw [Token.isEof, Token.isEof, h.kind]

theorem isKeyword_eq (word : String) : t.isKeyword word = t'.isKeyword word := by
  simp only [Token.isKeyword, Text.sameWord, h.kind, h.upper_eq]

theorem isOperator_eq (sign : String) : t.isOperator sign = t'.isOperator sign := by
  rw [Bool.eq_iff_iff, Token.isOperator_iff, Token.isOperator_iff, ← h.kind]
  exact and_congr_right fun operator => by rw [h.text_eq (by simp [operator])]

theorem isStep_eq : t.isStep = t'.isStep := by
  simp only [Token.isStep, h.isOperator_eq]

theorem step_text_eq (step : t.isStep = true) : t.text = t'.text :=
  h.text_eq (by simp [Token.kind_of_step step])

theorem category?_eq : t.category? = t'.category? := by
  simp only [Token.category?, Keyword.category?, h.kind, h.upper_eq]

theorem precedence?_eq : t.precedence? = t'.precedence? := by
  unfold Token.precedence?
  rw [← h.kind]
  cases kind : t.kind with
  | operator => simp only [h.text_eq (by simp [kind])]
  | keyword => simp only [h.isKeyword_eq]
  | _ => rfl

theorem operatorName_eq : t.operatorName = t'.operatorName := by
  by_cases keyword : t.kind = .keyword
  · simp [Token.operatorName, ← h.kind, keyword, h.upper_eq]
  · simp [Token.operatorName, ← h.kind, keyword, h.text_eq keyword]

theorem startsExpression_eq : t.startsExpression = t'.startsExpression := by
  unfold Token.startsExpression
  rw [← h.kind]
  cases kind : t.kind with
  | operator => simp only [h.text_eq (by simp [kind])]
  | keyword => simp only [h.isKeyword_eq]
  | _ => rfl

theorem keyName?_eq : Parser.keyName? t = Parser.keyName? t' := by
  unfold Parser.keyName?
  rw [← h.kind]
  cases kind : t.kind with
  | keyword => simp only [h.category?_eq, h.upper_eq]
  | identifier | integer | string => simp only [h.text_eq (by simp [kind])]
  | _ => rfl

end Lexemes

inductive Causes (like : Likeness) : Diagnostic.Cause → Diagnostic.Cause → Prop where
  | same (cause : Diagnostic.Cause) : Causes like cause cause
  | expected {kind : Token.Kind} {a b : String} (what : Expectation) : like.text kind a b →
    Causes like (.expected what kind a) (.expected what kind b)
  | unexpectedKeyword {a b : String} : like.text .keyword a b →
    Causes like (.unexpectedKeyword a) (.unexpectedKeyword b)
  | invalidType {kind : Token.Kind} {a b : String} : like.text kind a b →
    Causes like (.invalidType a) (.invalidType b)

theorem Causes.eq {cause cause' : Diagnostic.Cause} (h : like.Causes cause cause')
    (spelt : ∀ {kind a b}, like.text kind a b → a = b) : cause = cause' := by
  cases h with
  | same => rfl
  | expected what text => rw [spelt text]
  | unexpectedKeyword text => rw [spelt text]
  | invalidType text => rw [spelt text]

structure Diagnostics (like : Likeness) (d d' : Diagnostic) : Prop where
  cause : like.Causes d.cause d'.cause
  line : like.line d.line d'.line

theorem Diagnostics.isControlFlow_eq {d d' : Diagnostic} (h : like.Diagnostics d d') :
    d.isControlFlow = d'.isControlFlow := by
  obtain ⟨cause, line⟩ := d
  obtain ⟨cause', line'⟩ := d'
  obtain ⟨causes, -⟩ := h
  cases causes <;> rfl

theorem Diagnostics.settle {d d' : Diagnostic} (h : like.Diagnostics d d') :
    like.Diagnostics d.settle d'.settle := by
  obtain ⟨cause, line⟩ := d
  obtain ⟨cause', line'⟩ := d'
  obtain ⟨causes, lines⟩ := h
  cases causes with
  | same =>
    change like.Diagnostics (if cause.kind.isControlFlow = true then _ else _)
      (if cause.kind.isControlFlow = true then _ else _)
    split <;> exact ⟨.same _, lines⟩
  | expected what text => exact ⟨.expected what text, lines⟩
  | unexpectedKeyword text => exact ⟨.unexpectedKeyword text, lines⟩
  | invalidType text => exact ⟨.invalidType text, lines⟩

end Likeness

/-- Two lists of tokens that are alike as far as a run on the first of them comes. -/
structure Twins extends Likeness where
  first : List Token
  second : List Token
  reach : Nat
  reached : ∀ {i t t'}, i ≤ reach → first[i]? = some t → second[i]? = some t' →
    toLikeness.Tokens t t'
  /-- The token after that place is only looked at, and only if the file does not end there. -/
  foreseen : ∀ {t t' u u'}, first[reach]? = some t → second[reach]? = some t' →
    t.isEof = false → first[reach + 1]? = some u → second[reach + 1]? = some u' →
    toLikeness.Lexemes u u' ∧ (u.line = t.line ↔ u'.line = t'.line)

namespace Cursor

theorem toList_advance (c : Cursor) : c.advance.toList = c.toList := by
  obtain ⟨tokens, reads⟩ := c.advance_reads_some
  exact reads.toList_eq

theorem previous_at (c : Cursor) : c.toList[c.position - 1]? = some c.previous := by
  rw [toList, position, previous]
  cases h : c.passed with
  | nil => rfl
  | cons last rest => simp

theorem next?_at (c : Cursor) : c.toList[c.position + 1]? = c.next? := by
  simp [toList, position, next?, List.getElem?_append_right, List.head?_eq_getElem?]

theorem position_advance {c : Cursor} (goesOn : c.current.isEof = false) :
    c.advance.position = c.position + 1 :=
  (advance_reads goesOn).position_eq

end Cursor

namespace Parser

theorem run_position_le {α : Type} (p : Parser α) (s : State) :
    s.cursor.position ≤ (p.run s).2.cursor.position := by
  obtain ⟨tokens, reads⟩ := run_reads p s
  rw [reads.position_eq]
  exact Nat.le_add_right _ _

end Parser

namespace Twins

open DeskScript.Parser (State Command)

variable (twins : Twins)

structure Abreast (s s' : State) : Prop where
  first : s.cursor.toList = twins.first
  second : s'.cursor.toList = twins.second
  position : s.cursor.position = s'.cursor.position
  within : s.cursor.position ≤ twins.reach
  depth : s.depth = s'.depth
  scopes : s.scopes = s'.scopes

variable {twins}

namespace Abreast

variable {s s' : State} (h : twins.Abreast s s')
include h

theorem current : twins.Tokens s.cursor.current s'.cursor.current := by
  refine twins.reached h.within ?_ ?_
  · rw [← h.first]
    exact s.cursor.current_at.1
  · rw [← h.second, h.position]
    exact s'.cursor.current_at.1

theorem previous : twins.line s.cursor.previous.line s'.cursor.previous.line := by
  have before : s.cursor.position - 1 ≤ twins.reach := Nat.le_trans (Nat.sub_le _ _) h.within
  have alike : twins.Tokens s.cursor.previous s'.cursor.previous := by
    refine twins.reached before ?_ ?_
    · rw [← h.first]
      exact s.cursor.previous_at
    · rw [← h.second, h.position]
      exact s'.cursor.previous_at
  exact alike.line

theorem advance (within : s.advance.cursor.position ≤ twins.reach) :
    twins.Abreast s.advance s'.advance where
  first := (Cursor.toList_advance _).trans h.first
  second := (Cursor.toList_advance _).trans h.second
  position := by
    have ends := h.current.isEof_eq
    cases ended : s.cursor.current.isEof with
    | true =>
      rw [State.advance_cursor, State.advance_cursor, Cursor.advance_of_eof ended,
        Cursor.advance_of_eof (ends ▸ ended), h.position]
    | false =>
      rw [State.advance_cursor, State.advance_cursor, Cursor.position_advance ended,
        Cursor.position_advance (ends ▸ ended), h.position]
  within := within
  depth := h.depth
  scopes := h.scopes

theorem next (goesOn : s.cursor.current.isEof = false) :
    ∃ u u', s.cursor.next? = some u ∧ s'.cursor.next? = some u' ∧ twins.Lexemes u u' ∧
      (u.line = s.cursor.current.line ↔ u'.line = s'.cursor.current.line) := by
  have goesOn' : s'.cursor.current.isEof = false := h.current.isEof_eq ▸ goesOn
  have next := Cursor.next?_eq_some goesOn
  have next' := Cursor.next?_eq_some goesOn'
  refine ⟨_, _, next, next', ?_⟩
  have at_ : twins.first[s.cursor.position + 1]? = some s.cursor.advance.current := by
    rw [← h.first, Cursor.next?_at, next]
  have at' : twins.second[s.cursor.position + 1]? = some s'.cursor.advance.current := by
    rw [← h.second, h.position, Cursor.next?_at, next']
  rcases Nat.lt_or_eq_of_le h.within with before | last
  · have alike := twins.reached before at_ at'
    exact ⟨alike.toLexemes, twins.apart alike.line h.current.line⟩
  · have current := s.cursor.current_at.1
    have current' := s'.cursor.current_at.1
    rw [h.first, last] at current
    rw [h.second, ← h.position, last] at current'
    rw [last] at at_ at'
    exact twins.foreseen current current' goesOn at_ at'

theorem note (event event' : Journal.Event) :
    twins.Abreast ((Command.note event).apply s) ((Command.note event').apply s') :=
  ⟨h.first, h.second, h.position, h.within, h.depth, h.scopes⟩

theorem apply {command : Command} (still : command ≠ .advance) :
    twins.Abreast (command.apply s) (command.apply s') := by
  cases command with
  | advance => exact absurd rfl still
  | deepen => exact { h with depth := congrArg (· + 1) h.depth }
  | rise => exact { h with depth := congrArg (· - 1) h.depth }
  | note event => exact h.note event event
  | scope change => exact { h with scopes := congrArg change.apply h.scopes }

theorem applyAll {given : List Command} (still : Command.advance ∉ given) :
    twins.Abreast (Command.applyAll given s) (Command.applyAll given s') := by
  induction given generalizing s s' with
  | nil => exact h
  | cons command rest ih =>
    rw [List.mem_cons, not_or] at still
    exact ih (h.apply (Ne.symm still.1)) still.2

end Abreast

open DeskScript.Parser

variable {α β : Type}

inductive Matched (twins : Twins) (V : α → α → Prop) :
    Except Diagnostic α × State → Except Diagnostic α × State → Prop where
  | ok {a b : α} {s s' : State} : V a b → twins.Abreast s s' →
    Matched twins V (.ok a, s) (.ok b, s')
  | error {d d' : Diagnostic} {s s' : State} : twins.Diagnostics d d' → twins.Abreast s s' →
    Matched twins V (.error d, s) (.error d', s')

def At (twins : Twins) (V : α → α → Prop) (p q : Parser α) (s s' : State) : Prop :=
  (p.run s).2.cursor.position ≤ twins.reach → twins.Matched V (p.run s) (q.run s')

/-- Two parsers end alike, unless the first one gets too far. -/
def Alike (twins : Twins) (V : α → α → Prop) (p q : Parser α) : Prop :=
  ∀ s s', twins.Abreast s s' → twins.At V p q s s'

variable {twins : Twins} {V : α → α → Prop} {W : β → β → Prop} {p q p' q' : Parser α}
variable {f g : α → Parser β} {s s' : State}

theorem At.bind (hp : twins.At V p q s s')
    (hf : ∀ a b t t', p.run s = (.ok a, t) → q.run s' = (.ok b, t') → V a b →
      twins.Abreast t t' → twins.At W (f a) (g b) t t') :
    twins.At W (p >>= f) (q >>= g) s s' := by
  intro within
  rw [run_bind] at within
  rw [run_bind, run_bind]
  rcases ran : p.run s with ⟨d | a, t⟩
  · rw [ran] at within
    have matched := hp (ran ▸ within)
    rw [ran] at matched
    rcases ran' : q.run s' with ⟨d' | b, t'⟩ <;> rw [ran'] at matched
    · cases matched with
      | error alike abreast => exact .error alike abreast
    · cases matched
  · rw [ran] at within
    have matched := hp (ran ▸ Nat.le_trans (run_position_le (f a) t) within)
    rw [ran] at matched
    rcases ran' : q.run s' with ⟨d' | b, t'⟩ <;> rw [ran'] at matched
    · cases matched
    · cases matched with
      | ok alike abreast => exact hf a b t t' ran ran' alike abreast within

theorem At.current {f g : Token → Parser α}
    (h : twins.At V (f s.cursor.current) (g s'.cursor.current) s s') :
    twins.At V (current >>= f) (current >>= g) s s' :=
  h

theorem At.next? {f g : Option Token → Parser α}
    (h : twins.At V (f s.cursor.next?) (g s'.cursor.next?) s s') :
    twins.At V (next? >>= f) (next? >>= g) s s' :=
  h

theorem Alike.bind (hp : twins.Alike V p q) (hf : ∀ a b, V a b → twins.Alike W (f a) (g b)) :
    twins.Alike W (p >>= f) (q >>= g) :=
  fun s s' abreast => (hp s s' abreast).bind fun a b t t' _ _ alike => hf a b alike t t'

theorem Alike.then (hp : twins.Alike Eq p q) (hf : ∀ a, twins.Alike W (f a) (g a)) :
    twins.Alike W (p >>= f) (q >>= g) :=
  hp.bind fun a _ same => same ▸ hf a

theorem Alike.ite {c c' : Prop} [Decidable c] [Decidable c'] (same : c ↔ c')
    (hp : twins.Alike V p p') (hq : twins.Alike V q q') :
    twins.Alike V (if c then p else q) (if c' then p' else q') := by
  by_cases h : c
  · rw [if_pos h, if_pos (same.1 h)]
    exact hp
  · rw [if_neg h, if_neg (fun h' => h (same.2 h'))]
    exact hq

theorem alike_done {a b : α} (h : V a b) : twins.Alike V (.done a) (.done b) :=
  fun _ _ abreast _ => .ok h abreast

theorem alike_fail {cause cause' : Diagnostic.Cause} {line line' : Nat}
    (causes : twins.Causes cause cause') (lines : twins.line line line') :
    twins.Alike V (fail cause line) (fail cause' line') :=
  fun _ _ abreast _ => .error ⟨causes, lines⟩ abreast

theorem alike_current : twins.Alike twins.Tokens current current :=
  fun _ _ abreast _ => .ok abreast.current abreast

theorem alike_previousLine : twins.Alike twins.line previousLine previousLine :=
  fun _ _ abreast _ => .ok abreast.previous abreast

theorem alike_scopes : twins.Alike Eq scopes scopes :=
  fun _ _ abreast _ => .ok abreast.scopes abreast

theorem alike_advance : twins.Alike Eq advance advance :=
  fun _ _ abreast within => .ok rfl (abreast.advance within)

theorem alike_note (event event' : Journal.Event) : twins.Alike Eq (note event) (note event') :=
  fun _ _ abreast _ => .ok rfl (abreast.note event event')

theorem alike_change (change : Tracker.Change) :
    twins.Alike Eq (Parser.change change) (Parser.change change) := by
  intro s s' abreast _
  have still : Command.scope change ≠ .advance := nofun
  exact .ok rfl (abreast.apply still)

theorem alike_between {before after : List Command} (opens : Command.advance ∉ before)
    (closes : Command.advance ∉ after) (h : twins.Alike V p q) :
    twins.Alike V (between before p after) (between before q after) := by
  intro s s' abreast within
  rw [run_between, applyAll_cursor closes] at within
  have matched := h _ _ (abreast.applyAll opens) within
  rw [run_between, run_between]
  generalize p.run (Command.applyAll before s) = ended at matched ⊢
  generalize q.run (Command.applyAll before s') = ended' at matched ⊢
  cases matched with
  | ok alike abreast => exact .ok alike (abreast.applyAll closes)
  | error alike abreast => exact .error alike (abreast.applyAll closes)

theorem alike_unexpected (what : Expectation) :
    twins.Alike V (unexpected what) (unexpected what) :=
  fun _ _ abreast _ => by
    have alike := abreast.current
    rw [run_unexpected, run_unexpected, ← alike.kind]
    exact .error ⟨.expected what alike.text, alike.line⟩ abreast

theorem alike_tooDeep (settings : Settings) :
    twins.Alike V (tooDeep settings) (tooDeep settings) :=
  fun _ _ abreast _ => .error ⟨.same _, abreast.current.line⟩ abreast

theorem alike_nested (settings : Settings) (h : twins.Alike V p q) :
    twins.Alike V (nested settings p) (nested settings q) := by
  intro s s' abreast
  rw [At, run_nested, run_nested, ← abreast.depth]
  split
  · exact alike_tooDeep settings s s' abreast
  · exact alike_between (by simp) (by simp) h s s' abreast

theorem alike_settled (h : twins.Alike V p q) : twins.Alike V p.settled q.settled := by
  intro s s' abreast within
  -- settling an error does not move the cursor
  have ended : (p.run s).2.cursor = (p.settled.run s).2.cursor := by
    rw [run_settled]
    rcases p.run s with ⟨d | a, t⟩
    · dsimp only
      split <;> rfl
    · rfl
  have matched := h s s' abreast (ended ▸ within)
  rw [run_settled, run_settled]
  generalize p.run s = ran at matched ⊢
  generalize q.run s' = ran' at matched ⊢
  cases matched with
  | ok alike abreast => exact .ok alike abreast
  | error alike abreast =>
    refine .error alike.settle ?_
    rw [alike.isControlFlow_eq]
    split
    · exact abreast.note _ _
    · exact abreast

theorem alike_accept {test : Token → Bool}
    (same : ∀ {t t'}, twins.Lexemes t t' → test t = test t') :
    twins.Alike Eq (accept test) (accept test) :=
  alike_current.bind fun t t' alike =>
    .ite (by rw [same alike.toLexemes]) (alike_advance.then fun _ => alike_done rfl)
      (alike_done rfl)

theorem alike_acceptOperator (sign : String) :
    twins.Alike Eq (acceptOperator sign) (acceptOperator sign) :=
  alike_accept fun alike => alike.isOperator_eq sign

theorem alike_acceptKeyword (word : String) :
    twins.Alike Eq (acceptKeyword word) (acceptKeyword word) :=
  alike_accept fun alike => alike.isKeyword_eq word

theorem alike_expectOperator (sign : String) (what : Expectation) :
    twins.Alike Eq (expectOperator sign what) (expectOperator sign what) :=
  (alike_acceptOperator sign).then fun _ => .ite .rfl (alike_done rfl) (alike_unexpected what)

theorem alike_expectKeyword (word : String) (what : Expectation) :
    twins.Alike Eq (expectKeyword word what) (expectKeyword word what) :=
  (alike_acceptKeyword word).then fun _ => .ite .rfl (alike_done rfl) (alike_unexpected what)

theorem alike_expectIdentifier (what : Expectation) :
    twins.Alike Eq (expectIdentifier what) (expectIdentifier what) := by
  refine alike_current.bind fun t t' alike => ?_
  by_cases identifier : t.kind = .identifier
  · rw [if_pos identifier, if_pos (alike.kind ▸ identifier), alike.text_eq (by simp [identifier])]
    exact alike_advance.then fun _ => alike_done rfl
  · rw [if_neg identifier, if_neg (alike.kind ▸ identifier)]
    exact alike_unexpected what

theorem alike_commaList {item : Parser α} (h : twins.Alike Eq item item) (read : List α)
    (rounds : Nat) : twins.Alike Eq (commaList item read rounds) (commaList item read rounds) := by
  induction rounds generalizing read with
  | zero => exact alike_done rfl
  | succ rounds ih =>
    refine h.then fun next => (alike_acceptOperator ",").then fun _ => ?_
    exact .ite .rfl (ih _) (alike_done rfl)

end Twins

def Token.LineBy (tokens : List Token) (place line : Nat) : Prop :=
  ∃ i token, i ≤ place ∧ tokens[i]? = some token ∧ token.line = line

def Likeness.among (lines : Nat → Prop) : Likeness where
  text _ a b := a = b
  line a b := a = b ∧ lines a
  exact h _ := h
  upper := congrArg Text.upper
  apart h k := by rw [h.1, k.1]

theorem Likeness.Diagnostics.eq {lines : Nat → Prop} {d d' : Diagnostic}
    (h : (among lines).Diagnostics d d') : d = d' := by
  obtain ⟨cause, line⟩ := d
  obtain ⟨cause', line'⟩ := d'
  obtain ⟨causes, rfl : line = line', -⟩ := h
  obtain rfl : cause = cause' := causes.eq id
  rfl

/-- Lists that agree up to a place, and at the next one unless the file ends there. Lines are alike
if they are lines of tokens up to that place. -/
def Twins.agreeing {first second : List Token} {reach : Nat}
    (reached : ∀ i ≤ reach, first[i]? = second[i]?)
    (ahead : ∀ token, first[reach]? = some token → token.isEof = false →
      first[reach + 1]? = second[reach + 1]?) : Twins where
  toLikeness := .among (Token.LineBy first reach)
  first := first
  second := second
  reach := reach
  reached := by
    intro i t t' le found found'
    obtain rfl : t = t' := Option.some.inj (found.symm.trans ((reached i le).trans found'))
    exact ⟨⟨rfl, rfl⟩, rfl, i, t, le, found, rfl⟩
  foreseen := by
    intro t t' u u' found found' goesOn next next'
    have here := reached reach (Nat.le_refl _)
    obtain rfl : t = t' := Option.some.inj (found.symm.trans (here.trans found'))
    obtain rfl : u = u' := Option.some.inj (next.symm.trans ((ahead t found goesOn).trans next'))
    exact ⟨⟨rfl, rfl⟩, .rfl⟩

end DeskScript
