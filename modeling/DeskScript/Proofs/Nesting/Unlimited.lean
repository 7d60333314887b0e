import DeskScript.Proofs.Nesting.Barrier

/-!
Reading without a limit on nesting. The rules are the same and only differ in how a level opens,
so `Opening` is a parameter of one recursion for both. Main statements: `Barrier.program_until`,
that a run under a limit goes with one without up to a place where as many levels are open as may
be, and `unlimited_program_together`, that as many levels as there are tokens are enough for a run
without a limit, because every level takes in a token before the next one opens.
-/

namespace DeskScript.Parser

variable {α β : Type} {settings : Settings} {d : Nat} {s t : State}

/-- How the rules open a level. -/
structure Opening where
  enter : Parser Node → Parser Node
  spent : Parser Node

namespace Opening

def limited (settings : Settings) : Opening :=
  ⟨nested settings, tooDeep settings⟩

/-- A level always opens. What is done where the recursion ends is left open. -/
def unlimited (spent : Parser Node) : Opening :=
  ⟨fun p => between [.deepen] p [.rise], between [.deepen] spent [.rise]⟩

variable (opening : Opening) (settings : Settings)

def expression : Nat → Nat → Parser Node
  | 0, _ => opening.spent
  | levels + 1, least =>
    opening.enter do
      let left ← primary settings (expression levels 1)
      operators (expression levels) least settings.bound left

def statement : Nat → Parser Node
  | 0 => opening.spent
  | levels + 1 =>
    opening.enter
      (terminated settings (opening.expression settings levels 1) (statement levels))

def program (levels count : Nat) : Parser Node := do
  note (.parsing count)
  let statements ← topLevel (opening.statement settings levels) [] settings.bound
  note (.parsed statements.length)
  return .program statements

theorem limited_expression (levels : Nat) :
    (limited settings).expression settings levels = Parser.expression settings levels := by
  induction levels with
  | zero => rfl
  | succ levels ih =>
    funext least
    rw [expression, Parser.expression, ih]
    rfl

theorem limited_statement (levels : Nat) :
    (limited settings).statement settings levels = Parser.statement settings levels := by
  induction levels with
  | zero => rfl
  | succ levels ih =>
    rw [statement, Parser.statement, ih, limited_expression]
    rfl

theorem limited_program (levels count : Nat) :
    (limited settings).program settings levels count = Parser.program settings levels count := by
  rw [program, Parser.program, limited_statement]

end Opening

namespace Barrier

variable {barrier : Barrier} {p q : Parser α}

theorem met_here (closed : barrier.closed s)
    (blamed : ∀ e, barrier.blame s = some e → (p.run s).1 = .error e) :
    barrier.Met p (between [.deepen] q [.rise]) s s := by
  refine ⟨⟨[], List.nil_prefix, ?_, rfl⟩, closed, blamed⟩
  rw [commands_between, List.append_assoc]
  exact List.prefix_append _ _

theorem until_program {opening other : Opening} {levels levels' : Nat} (count : Nat)
    (h : barrier.Until d Node (opening.statement settings levels)
      (other.statement settings levels')) :
    barrier.Until d Node (opening.program settings levels count)
      (other.program settings levels' count) := by
  have sim := (until_related barrier settings).simulation rfl
  refine sim.bind (sim.note _) fun _ => sim.bind ?_ fun _ =>
    sim.bind (sim.note _) fun _ => sim.done _
  exact sim.topLevel ⟨trivial, h⟩

def atLimit (limit : Nat) : Barrier where
  closed t := limit ≤ t.depth
  blame t := some ⟨.tooDeep limit, t.cursor.current.line⟩
  plain t e h := by
    cases h
    rfl

variable {spent : Parser Node}

theorem until_full {p q : Parser Node} (full : settings.limit ≤ d)
    (refused : ∀ s, s.depth = d → p.run s = (tooDeep settings).run s) :
    (atLimit settings.limit).Until d Node p (between [.deepen] q [.rise]) := by
  intro s depth
  have closed : settings.limit ≤ s.depth := depth ▸ full
  refine .inr ⟨s, met_here closed fun e blamed => ?_⟩
  obtain rfl : _ = e := Option.some.inj blamed
  rw [refused s depth, run_tooDeep]

theorem until_enter {p q : Parser Node} (hp : (atLimit settings.limit).Until (d + 1) Node p q) :
    (atLimit settings.limit).Until d Node (nested settings p) (between [.deepen] q [.rise]) := by
  by_cases full : settings.limit ≤ d
  · exact until_full full fun s depth => (nested_above p (depth ▸ full)).1
  · have below := Nat.lt_of_not_le full
    exact until_congr (until_level hp) (fun s depth => nested_below p (depth ▸ below))
      (fun _ _ => ⟨rfl, rfl⟩)

theorem expression_until {levels levels' : Nat} (le : levels ≤ levels')
    (enough : settings.limit ≤ levels + d) (least : Nat) :
    (atLimit settings.limit).Until d Node
      ((Opening.limited settings).expression settings levels least)
      ((Opening.unlimited spent).expression settings levels' least) := by
  -- levels are used up only where as many are open as may be
  induction levels generalizing levels' least d with
  | zero =>
    have full : settings.limit ≤ d := Nat.zero_add d ▸ enough
    cases levels' with
    | zero => exact until_full full fun _ _ => rfl
    | succ levels' => exact until_full full fun _ _ => rfl
  | succ levels ih =>
    obtain ⟨levels', rfl⟩ : ∃ fewer, levels' = fewer + 1 := ⟨levels' - 1, by omega⟩
    have inside (least : Nat) : (atLimit settings.limit).Until (d + 1) Node
        ((Opening.limited settings).expression settings levels least)
        ((Opening.unlimited spent).expression settings levels' least) :=
      ih (by omega) (by omega) least
    have sim := (until_related (atLimit settings.limit) settings).simulation rfl
    exact until_enter (sim.bind (sim.primary (inside 1)) fun _ => sim.operators inside least _)

theorem statement_until {levels levels' : Nat} (le : levels ≤ levels')
    (enough : settings.limit ≤ levels + d) :
    (atLimit settings.limit).Until d Node ((Opening.limited settings).statement settings levels)
      ((Opening.unlimited spent).statement settings levels') := by
  induction levels generalizing levels' d with
  | zero =>
    have full : settings.limit ≤ d := Nat.zero_add d ▸ enough
    cases levels' with
    | zero => exact until_full full fun _ _ => rfl
    | succ levels' => exact until_full full fun _ _ => rfl
  | succ levels ih =>
    obtain ⟨levels', rfl⟩ : ∃ fewer, levels' = fewer + 1 := ⟨levels' - 1, by omega⟩
    have inside : (atLimit settings.limit).Until (d + 1) Node
        ((Opening.limited settings).statement settings levels)
        ((Opening.unlimited spent).statement settings levels') :=
      ih (by omega) (by omega)
    have value : (atLimit settings.limit).Until (d + 1) Node
        ((Opening.limited settings).expression settings levels 1)
        ((Opening.unlimited spent).expression settings levels' 1) :=
      expression_until (by omega) (by omega) 1
    have sim := (until_related (atLimit settings.limit) settings).simulation rfl
    exact until_enter (sim.terminated value ⟨trivial, inside⟩)

theorem program_until {levels levels' : Nat} (le : levels ≤ levels')
    (enough : settings.limit ≤ levels + d) (count : Nat) :
    (atLimit settings.limit).Until d Node (program settings levels count)
      ((Opening.unlimited spent).program settings levels' count) := by
  rw [← Opening.limited_program]
  exact until_program count (statement_until le enough)

end Barrier

def MovesFirst (p : Parser α) (s : State) : Prop :=
  ∀ given after, p.commands s = given ++ .deepen :: after →
    (Command.applyAll given s).cursor.remaining.length < s.cursor.remaining.length

namespace MovesFirst

variable {p : Parser α}

theorem of_flat (flat : .deepen ∉ p.commands s) : MovesFirst p s := by
  intro given after opens
  rw [opens] at flat
  exact absurd (List.mem_append_right _ (List.mem_cons_self ..)) flat

theorem of_advance {rest : List Command} (goesOn : s.cursor.current.isEof = false)
    (first : p.commands s = .advance :: rest) : MovesFirst p s := by
  intro given after opens
  rw [first] at opens
  cases given with
  | nil => cases opens
  | cons command given =>
    obtain ⟨rfl, -⟩ := List.cons.inj opens
    obtain ⟨tokens, reads⟩ := applyAll_reads given s.advance
    exact Nat.lt_of_le_of_lt (reads.within (Nat.le_refl _)) (advance_fewer goesOn)

theorem bind {f : α → Parser β} (hp : MovesFirst p s)
    (hf : ∀ a t, p.run s = (.ok a, t) → MovesFirst (f a) t) : MovesFirst (p >>= f) s := by
  intro given after opens
  rw [commands_bind] at opens
  rcases split_append opens with ⟨rest, inside⟩ | ⟨later, rfl, second⟩
  · exact hp given rest inside
  · rcases ran : p.run s with ⟨e | a, t⟩
    · rw [ran] at second
      simp at second
    · rw [ran] at second
      have fewer := hf a t ran later after second
      have le := run_remaining_le p s
      rw [applyAll_append, ← run_state, ran]
      rw [ran] at le
      exact Nat.lt_of_lt_of_le fewer le

theorem current {f : Token → Parser α} (h : MovesFirst (f s.cursor.current) s) :
    MovesFirst (Parser.current >>= f) s :=
  h

theorem of_nil (nothing : p.commands s = []) : MovesFirst p s :=
  of_flat (nothing ▸ List.not_mem_nil)

theorem note {event : Journal.Event} (h : MovesFirst p ((Command.note event).apply s)) :
    MovesFirst (do Parser.note event; p) s := by
  have flat : Command.deepen ∉ [Command.note event] := by simp
  refine bind (of_flat flat) fun _ t noted => ?_
  cases noted
  exact h

theorem ite {q : Parser α} (c : Prop) [Decidable c] (hp : MovesFirst p s) (hq : MovesFirst q s) :
    MovesFirst (if c then p else q) s := by
  split
  · exact hp
  · exact hq

theorem accept (test : Token → Bool) : MovesFirst (accept test) s := by
  refine current ?_
  split
  next =>
    have flat : Command.deepen ∉ [Command.advance] := by simp
    exact of_flat flat
  next => exact of_nil rfl

end MovesFirst

variable {inner sub : Parser Node}

theorem primary_movesFirst : MovesFirst (primary settings inner) s := by
  refine .current ?_
  split
  case h_1 kind | h_2 kind | h_3 kind | h_4 kind | h_6 kind =>
    exact .of_advance (Token.not_eof_of_kind kind (by decide)) rfl
  case h_5 kind =>
    have goesOn := Token.not_eof_of_kind kind (by decide)
    exact .ite _ (.of_advance goesOn rfl) (.ite _ (.of_advance goesOn rfl) (.of_nil rfl))
  case h_7 kind =>
    have goesOn := Token.not_eof_of_kind kind (by decide)
    refine .ite _ (.of_advance goesOn rfl) (.ite _ (.of_advance goesOn rfl) ?_)
    exact .ite _ (.of_advance goesOn rfl) (.of_nil rfl)
  case h_8 => exact .of_nil rfl

theorem operators_movesFirst (operand : Nat → Parser Node) (least rounds : Nat) (left : Node) :
    MovesFirst (operators operand least rounds left) s := by
  cases rounds with
  | zero => exact .of_nil rfl
  | succ rounds =>
    refine .current ?_
    split
    next precedence operator =>
      have goesOn := Token.not_eof_of_precedence operator
      exact .ite _ (.of_nil rfl) (.of_advance goesOn rfl)
    next => exact .of_nil rfl

theorem wordStatement_movesFirst (goesOn : s.cursor.current.isEof = false) (token : Token)
    (word : String) : MovesFirst (wordStatement settings inner sub token word) s := by
  unfold wordStatement
  split
  · exact .of_advance goesOn rfl
  · split
    case h_14 => exact .of_nil rfl
    all_goals exact .of_advance goesOn rfl

theorem keywordStatement_movesFirst (goesOn : s.cursor.current.isEof = false) :
    MovesFirst (keywordStatement settings inner sub) s := by
  refine .current (.note (wordStatement_movesFirst ?_ _ _))
  exact goesOn

theorem identifierStatement_movesFirst (goesOn : s.cursor.current.isEof = false) :
    MovesFirst (identifierStatement settings inner) s := by
  refine .current (.bind (.of_nil rfl) fun next t looked => ?_)
  cases looked
  exact .ite _ (.of_advance goesOn rfl) (.ite _ (.of_advance goesOn rfl) (.of_nil rfl))

theorem unterminated_movesFirst : MovesFirst (unterminated settings inner sub) s := by
  refine .current ?_
  split
  next kind => exact keywordStatement_movesFirst (Token.not_eof_of_kind kind (by decide))
  next kind => exact identifierStatement_movesFirst (Token.not_eof_of_kind kind (by decide))
  next kind =>
    exact .ite _ (.of_advance (Token.not_eof_of_kind kind (by decide)) rfl) (.of_nil rfl)
  next => exact .of_nil rfl

theorem terminated_movesFirst : MovesFirst (terminated settings inner sub) s := by
  refine (MovesFirst.accept _).bind fun empty t _ => .ite _ (.of_nil rfl) ?_
  refine unterminated_movesFirst.bind fun node u _ => ?_
  exact (MovesFirst.accept _).bind fun _ _ _ => .of_nil rfl

namespace Barrier

variable {p q : Parser Node} {spent spent' : Parser Node} {n : Nat}

def tokensLeft (n : Nat) : Barrier where
  closed t := n < t.cursor.remaining.length
  blame _ := none
  plain _ _ h := by cases h

theorem until_moves (hp : (tokensLeft n).Until (d + 1) Node p q) (moves : ∀ s, MovesFirst q s) :
    (tokensLeft (n + 1)).Until d Node (between [.deepen] p [.rise])
      (between [.deepen] q [.rise]) := by
  intro s depth
  by_cases many : n + 1 < s.cursor.remaining.length
  · exact .inr ⟨s, met_here many fun e blamed => by cases blamed⟩
  · rcases hp (Command.deepen.apply s) (congrArg (· + 1) depth) with same | ⟨t, met⟩
    · exact .inl (between_together (fun _ depth => congrArg (· - 1) depth) same)
    · -- inside, a level would open with all the tokens still to come
      obtain ⟨given, -, ⟨after, opens⟩, rfl⟩ := met.reached
      rw [List.append_assoc] at opens
      have fewer := moves (Command.deepen.apply s) given after opens.symm
      have still : (Command.deepen.apply s).cursor = s.cursor := rfl
      rw [still] at fewer
      have closed : n < _ := met.closed
      omega

theorem until_zero : (tokensLeft 0).Until d Node p (between [.deepen] q [.rise]) :=
  fun s _ => .inr ⟨s, met_here s.cursor.remaining_pos fun _ blamed => by cases blamed⟩

theorem unlimited_expression_until {levels levels' : Nat} (le : n ≤ levels) (le' : n ≤ levels')
    (least : Nat) :
    (tokensLeft n).Until d Node ((Opening.unlimited spent).expression settings levels least)
      ((Opening.unlimited spent').expression settings levels' least) := by
  -- each level takes a token, so there are levels left as long as there are tokens
  induction n generalizing levels levels' least d with
  | zero =>
    cases levels' with
    | zero => exact until_zero
    | succ levels' => exact until_zero
  | succ n ih =>
    obtain ⟨levels, rfl⟩ : ∃ fewer, levels = fewer + 1 := ⟨levels - 1, by omega⟩
    obtain ⟨levels', rfl⟩ : ∃ fewer, levels' = fewer + 1 := ⟨levels' - 1, by omega⟩
    have inside (least : Nat) : (tokensLeft n).Until (d + 1) Node
        ((Opening.unlimited spent).expression settings levels least)
        ((Opening.unlimited spent').expression settings levels' least) :=
      ih (by omega) (by omega) least
    have sim := (until_related (tokensLeft n) settings).simulation rfl
    refine until_moves (sim.bind (sim.primary (inside 1)) fun _ =>
      sim.operators inside least _) fun s => ?_
    exact primary_movesFirst.bind fun left t _ => operators_movesFirst _ _ _ _

theorem unlimited_statement_until {levels levels' : Nat} (le : n ≤ levels) (le' : n ≤ levels') :
    (tokensLeft n).Until d Node ((Opening.unlimited spent).statement settings levels)
      ((Opening.unlimited spent').statement settings levels') := by
  induction n generalizing levels levels' d with
  | zero =>
    cases levels' with
    | zero => exact until_zero
    | succ levels' => exact until_zero
  | succ n ih =>
    obtain ⟨levels, rfl⟩ : ∃ fewer, levels = fewer + 1 := ⟨levels - 1, by omega⟩
    obtain ⟨levels', rfl⟩ : ∃ fewer, levels' = fewer + 1 := ⟨levels' - 1, by omega⟩
    have inside : (tokensLeft n).Until (d + 1) Node
        ((Opening.unlimited spent).statement settings levels)
        ((Opening.unlimited spent').statement settings levels') :=
      ih (by omega) (by omega)
    have value : (tokensLeft n).Until (d + 1) Node
        ((Opening.unlimited spent).expression settings levels 1)
        ((Opening.unlimited spent').expression settings levels' 1) :=
      unlimited_expression_until (by omega) (by omega) 1
    have sim := (until_related (tokensLeft n) settings).simulation rfl
    exact until_moves (sim.terminated value ⟨trivial, inside⟩) fun s => terminated_movesFirst

end Barrier

theorem unlimited_program_together {levels levels' : Nat} (spent spent' : Parser Node)
    (count : Nat) (enough : s.cursor.remaining.length ≤ levels)
    (enough' : s.cursor.remaining.length ≤ levels') :
    Together s.depth ((Opening.unlimited spent).program settings levels count)
      ((Opening.unlimited spent').program settings levels' count) s := by
  have alike : (Barrier.tokensLeft s.cursor.remaining.length).Until s.depth Node
      ((Opening.unlimited spent).program settings levels count)
      ((Opening.unlimited spent').program settings levels' count) :=
    Barrier.until_program count (Barrier.unlimited_statement_until enough enough')
  refine (alike s rfl).resolve_right fun ⟨t, met⟩ => ?_
  obtain ⟨given, -, -, rfl⟩ := met.reached
  obtain ⟨tokens, reads⟩ := applyAll_reads given s
  exact absurd met.closed (Nat.not_lt.2 (reads.within (Nat.le_refl _)))

end DeskScript.Parser
