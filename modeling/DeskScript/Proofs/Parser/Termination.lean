import DeskScript.Proofs.Parser.Depth
import DeskScript.Proofs.Parser.Progress

/-!
Reading a program comes to an end by itself. The number of rounds and the number of levels that
the rules are given do not matter once they are large enough: every repetition stops because of
a token, not because its rounds are used up, and every nesting stops at the limit on depth.
-/

namespace DeskScript.Parser

open Grammar

variable {α β γ : Type} {settings : Settings} {more n d : Nat} {s t : State}

structure Same (d : Nat) (p q : Parser α) (s : State) : Prop where
  run : p.run s = q.run s
  depth : (p.run s).2.depth = d

/-- Two parsers do the same from every state of the given depth with at most `n` tokens left. -/
def Agree (n d : Nat) (α : Type) (p q : Parser α) : Prop :=
  ∀ s, s.cursor.remaining.length ≤ n → s.depth = d → Same d p q s

theorem Same.bind {p q : Parser α} {f g : α → Parser β} (h : Same d p q s)
    (hf : ∀ a t, p.run s = (.ok a, t) →
      t.cursor.remaining.length ≤ s.cursor.remaining.length → t.depth = d →
      Same d (f a) (g a) t) :
    Same d (p >>= f) (q >>= g) s := by
  have le := run_remaining_le p s
  have depth := h.depth
  constructor
  · rw [run_bind, run_bind, ← h.run]
    rcases hp : p.run s with ⟨a | a, t⟩
    · rfl
    · rw [hp] at le depth
      exact (hf a t hp le depth).run
  · rw [run_bind]
    rcases hp : p.run s with ⟨a | a, t⟩
    · rw [hp] at depth
      exact depth
    · rw [hp] at le depth
      exact (hf a t hp le depth).depth

theorem settled_depth (p : Parser α) (s : State) :
    (p.settled.run s).2.depth = (p.run s).2.depth := by
  rw [run_settled]
  rcases p.run s with ⟨d | a, t⟩
  · dsimp only
    split <;> rfl
  · rfl

theorem agree_related (settings : Settings) (more n : Nat) :
    Related settings (settings.allowing more) (Agree n) where
  limit := rfl
  done _ _ _ depth := ⟨rfl, depth⟩
  failed _ _ _ depth := ⟨rfl, depth⟩
  look h s few depth := ⟨(h s.view s few depth).run, (h s.view s few depth).depth⟩
  bind hp hf s few depth :=
    (hp s few depth).bind fun a t _ le depth => hf a t (Nat.le_trans le few) depth
  advance _ _ depth := ⟨rfl, depth⟩
  note _ _ _ depth := ⟨rfl, depth⟩
  declareVariable _ _ _ _ depth := ⟨rfl, depth⟩
  declareFunction _ _ _ _ depth := ⟨rfl, depth⟩
  inLoop hp s few depth := by
    have inside := hp (Command.applyAll [.scope (.push .loop)] s) few depth
    constructor
    · rw [run_between, run_between, inside.run]
    · rw [run_between]
      exact inside.depth
  inFunction parameters hp s few depth := by
    obtain ⟨tracker, entered⟩ := enterFunction_eq parameters s
    have inside := hp (Command.applyAll (enterFunction parameters) s) (by rwa [entered])
      (by rwa [entered])
    constructor
    · rw [run_between, run_between, inside.run]
    · rw [run_between]
      exact inside.depth
  nested hp s few depth := by
    have inside := hp (Command.applyAll [.deepen] s) few (congrArg (· + 1) depth)
    constructor
    · rw [run_nested, run_nested, run_between, run_between, inside.run]
      rfl
    · rw [run_nested, run_between]
      split
      · exact depth
      · exact congrArg (· - 1) inside.depth
  settled hp s few depth := by
    have inside := hp s few depth
    constructor
    · rw [run_settled, run_settled, inside.run]
    · rw [settled_depth, inside.depth]
  requireVariable name s _ depth := ⟨rfl, by rw [requireVariable_state, depth]⟩
  checkCall name given line s _ depth := ⟨rfl, by rw [checkCall_state, depth]⟩

theorem agree_capped (settings : Settings) (more n : Nat) :
    Capped settings (settings.allowing more) (Agree n) := by
  intro d α p le s few depth
  constructor
  · rw [run_nested, if_pos (depth ▸ le)]
    rfl
  · exact depth

theorem agree_of_rounds (F G : Nat → β → Parser α)
    (step : ∀ r r' b s, s.cursor.remaining.length ≤ n → s.depth = d →
      (∀ b t, t.cursor.remaining.length < s.cursor.remaining.length → t.depth = d →
        Same d (F r b) (G r' b) t) →
      Same d (F (r + 1) b) (G (r' + 1) b) s)
    {r r' : Nat} (le : n ≤ r) (le' : n ≤ r') (b : β) : Agree n d α (F r b) (G r' b) := by
  intro s few depth
  -- with each round the bound on the tokens left goes down as well, so tokens run out first
  induction r generalizing n r' b s with
  | zero => exact absurd (Nat.le_trans few le) (by simp [Cursor.remaining])
  | succ r ih =>
    have some := s.cursor.remaining_pos
    obtain ⟨r', rfl⟩ : ∃ fewer, r' = fewer + 1 := ⟨r' - 1, by omega⟩
    obtain ⟨m, rfl⟩ : ∃ fewer, n = fewer + 1 := ⟨n - 1, by omega⟩
    refine step r r' b s few depth fun b t fewer depth => ?_
    refine ih (n := m) (fun r r' b s few => step r r' b s (by omega)) (by omega) (by omega) b t
      (by omega) depth

theorem Same.current {f g : Token → Parser α}
    (h : Same d (f s.cursor.current) (g s.cursor.current) s) :
    Same d (current >>= f) (current >>= g) s :=
  ⟨h.run, h.depth⟩

theorem Same.advance {p q : Parser α} (h : Same d p q s.advance) :
    Same d (do advance; p) (do advance; q) s :=
  ⟨h.run, h.depth⟩

theorem Same.ifOperator {sign : String} {p p' q q' : Parser α}
    (hp : s.cursor.current.isOperator sign = true → Same d p p' s.advance)
    (hq : Same d q q' s) :
    Same d (do if ← acceptOperator sign then p else q)
      (do if ← acceptOperator sign then p' else q') s := by
  by_cases sign : s.cursor.current.isOperator sign = true
  · constructor
    · simp only [run_ifOperator, sign, if_true, (hp sign).run]
    · simp only [run_ifOperator, sign, if_true, (hp sign).depth]
  · constructor
    · simp only [run_ifOperator, sign, if_false, hq.run, Bool.false_eq_true]
    · simp only [run_ifOperator, sign, if_false, hq.depth, Bool.false_eq_true]

theorem advance_fewer (goesOn : s.cursor.current.isEof = false) :
    s.advance.cursor.remaining.length < s.cursor.remaining.length := by
  rw [Cursor.advance_length goesOn]
  exact Nat.lt_succ_self _

theorem commaList_agree {p p' : Parser Node} (hp : Agree n d Node p p') {r r' : Nat}
    (le : n ≤ r) (le' : n ≤ r') :
    Agree n d (List Node) (commaList p [] r) (commaList p' [] r') := by
  refine agree_of_rounds (fun r read => commaList p read r) (fun r read => commaList p' read r)
    (fun r r' read s few depth ih => ?_) le le' []
  refine (hp s few depth).bind fun next t _ le depth => ?_
  refine Same.ifOperator (fun comma => ?_) ⟨rfl, depth⟩
  have fewer := advance_fewer (Token.not_eof_of_operator comma)
  exact ih (next :: read) t.advance (by omega) depth

theorem parameters_agree (function : String) {r r' : Nat} (le : n ≤ r) (le' : n ≤ r') :
    Agree n d (List String) (parameters function [] r) (parameters function [] r') := by
  refine agree_of_rounds (fun r seen => parameters function seen r)
    (fun r seen => parameters function seen r) (fun r r' seen s few depth ih => ?_) le le' []
  have identifier : Same d (expectIdentifier .parameterName) (expectIdentifier .parameterName) s :=
    (agree_related ⟨.none, 0, 0⟩ 0 n).expectIdentifier _ s few depth
  refine identifier.bind fun name t _ le depth => ?_
  split
  · exact ⟨rfl, depth⟩
  · refine Same.ifOperator (fun comma => ?_) ⟨rfl, depth⟩
    have fewer := advance_fewer (Token.not_eof_of_operator comma)
    exact ih _ t.advance (by omega) depth

theorem operators_agree {p p' : Nat → Parser Node}
    (hp : ∀ least, Agree n d Node (p least) (p' least)) (least : Nat) (left : Node) {r r' : Nat}
    (le : n ≤ r) (le' : n ≤ r') :
    Agree n d Node (operators p least r left) (operators p' least r' left) := by
  refine agree_of_rounds (fun r left => operators p least r left)
    (fun r left => operators p' least r left) (fun r r' left s few depth ih => ?_) le le' left
  refine Same.current ?_
  split
  next precedence operator =>
    split
    · exact ⟨rfl, depth⟩
    · have fewer := advance_fewer (Token.not_eof_of_precedence operator)
      refine Same.advance ((hp _ s.advance (by omega) depth).bind fun right t _ le depth => ?_)
      exact ih _ t (by omega) depth
  next => exact ⟨rfl, depth⟩

def Moves (n : Nat) (p : Parser Node) : Prop :=
  ∀ s a t, s.cursor.remaining.length ≤ n → p.run s = (.ok a, t) →
    t.cursor.remaining.length < s.cursor.remaining.length

theorem statementsUntil_agree {p p' : Parser Node} (closes : Token → Bool)
    (missing : Expectation) (moves : Moves n p) (hp : Agree n d Node p p') {r r' : Nat}
    (le : n ≤ r) (le' : n ≤ r') :
    Agree n d (List Node) (statementsUntil closes missing p [] r)
      (statementsUntil closes missing p' [] r') := by
  refine agree_of_rounds (fun r read => statementsUntil closes missing p read r)
    (fun r read => statementsUntil closes missing p' read r)
    (fun r r' read s few depth ih => ?_) le le' []
  refine Same.current ?_
  split
  · exact ⟨rfl, depth⟩
  · split
    · exact ⟨rfl, depth⟩
    · refine (hp s few depth).bind fun node t ok _ depth => ?_
      exact ih _ t (moves s node t few ok) depth

theorem topLevel_agree {p p' : Parser Node} (moves : Moves n p) (hp : Agree n d Node p p')
    {r r' : Nat} (le : n ≤ r) (le' : n ≤ r') :
    Agree n d (List Node) (topLevel p [] r) (topLevel p' [] r') := by
  refine agree_of_rounds (fun r read => topLevel p read r) (fun r read => topLevel p' read r)
    (fun r r' read s few depth ih => ?_) le le' []
  refine Same.current ?_
  split
  · exact ⟨rfl, depth⟩
  · have settled : Same d p.settled p'.settled s :=
      (agree_related ⟨.none, 0, 0⟩ 0 n).settled hp s few depth
    refine settled.bind fun node t ok _ depth => ?_
    exact ih _ t (moves s node t few (run_settled_eq_ok.1 ok)) depth

theorem elseIfs_agree {inner inner' sub sub' : Parser Node}
    (hbranch : Agree n d (Node × Body) (branch settings inner sub)
      (branch (settings.allowing more) inner' sub')) {r r' : Nat} (le : n ≤ r) (le' : n ≤ r') :
    Agree n d (List (Node × Body)) (elseIfs settings inner sub [] r)
      (elseIfs (settings.allowing more) inner' sub' [] r') := by
  refine agree_of_rounds (fun r read => elseIfs settings inner sub read r)
    (fun r read => elseIfs (settings.allowing more) inner' sub' read r)
    (fun r r' read s few depth ih => ?_) le le' []
  have elseIf : Same d acceptElseIf acceptElseIf s :=
    (agree_related settings more n).acceptElseIf s few depth
  refine elseIf.bind fun found t ok le depth => ?_
  cases found with
  | false =>
    rw [if_neg Bool.false_ne_true, if_neg Bool.false_ne_true]
    exact ⟨rfl, depth⟩
  | true =>
    rw [if_pos rfl, if_pos rfl]
    obtain ⟨words, reads, word, -⟩ := acceptElseIf_of_true ok
    have shorter := reads.length
    have progress := List.length_pos_iff.2 (elseIf_ne_nil word)
    refine (hbranch t (by omega) depth).bind fun branch u _ le depth => ?_
    exact ih _ u (by omega) depth

theorem agree_simulation {settings : Settings} {more n : Nat} (le : n ≤ settings.bound)
    (le' : n ≤ more) : Simulation settings (settings.allowing more) (Agree n) (Moves n) where
  toRelated := agree_related settings more n
  commaList hp := commaList_agree hp le le'
  parameters function := parameters_agree function le le'
  operators hp least left := operators_agree hp least left le le'
  statementsUntil closes missing hp := statementsUntil_agree closes missing hp.1 hp.2 le le'
  elseIfs hbranch := elseIfs_agree hbranch le le'
  topLevel hp := topLevel_agree hp.1 hp.2 le le'

theorem statement_moves_within (settings : Settings) (levels : Nat) :
    Moves settings.bound (statement settings levels) := by
  intro s node t enough h
  obtain ⟨tokens, some, reads⟩ := statement_moves enough h
  have progress := List.length_pos_iff.2 some
  have shorter := reads.length
  omega

theorem program_rounds_irrelevant {settings : Settings} {more levels levels' : Nat} (count : Nat)
    (enough : s.cursor.remaining.length ≤ settings.bound) (le : settings.bound ≤ more)
    (limit : settings.limit ≤ levels) (le' : levels ≤ levels') :
    (program (settings.allowing more) levels' count).run s =
      (program settings levels count).run s := by
  have sim := agree_simulation (Nat.le_refl settings.bound) le
  have agree := sim.program (d := s.depth) (statement_moves_within settings)
    (.inr ⟨agree_capped settings more _, le', Nat.le_trans limit (Nat.le_add_right _ _)⟩) count
  exact (agree s enough rfl).run.symm

theorem start_remaining (scopes : Tracker) (tokens : List Token) :
    (start scopes tokens).cursor.remaining = Cursor.complete tokens :=
  Cursor.ofList_remaining _ _

theorem start_toList (scopes : Tracker) (tokens : List Token) :
    (start scopes tokens).cursor.toList = Cursor.complete tokens := by
  change (Cursor.ofList _ _).passed.reverse ++ (Cursor.ofList _ _).remaining = _
  rw [Cursor.ofList_passed, Cursor.ofList_remaining]
  rfl

theorem remaining_le_of_toList {tokens : List Token}
    (h : s.cursor.toList = Cursor.complete tokens) (limit : Nat) (options : Options) :
    s.cursor.remaining.length ≤ (settingsFor limit options tokens).bound := by
  have length : s.cursor.passed.length + s.cursor.remaining.length =
      (Cursor.complete tokens).length := by
    rw [← h, ← List.length_reverse, ← List.length_append]
    rfl
  change _ ≤ (Cursor.complete tokens).length + 1
  omega

theorem ifStatement_branches {inner sub : Parser Node} {node : Node}
    (h : (ifStatement settings inner sub).run s = (.ok node, t)) :
    ∃ condition thenBody conditions bodies elseBody,
      Node.ofBranches? condition thenBody conditions bodies elseBody = some node := by
  simp only [ifStatement, run_bind_eq_ok, run_pure, Prod.mk.injEq, Except.ok.injEq] at h
  obtain ⟨_, _, -, ⟨condition, thenBody⟩, _, -, others, _, -, last, _, -, _, _, -, rfl, -⟩ := h
  exact ⟨condition, thenBody.statements, others.map (·.1), others.map (·.2.statements),
    last.map (·.statements), by simp [Node.ofBranches?]⟩

/--
Reading a list of tokens comes to an end with a program or a diagnostic: more rounds and more
levels would make no difference. Throughout the run the tokens stay as they are, the cursor is
at one of them, at or before the first end of the file, and never moves back, and the depth stays
between nothing and the limit. Every statement that is read moves the cursor forward, and every
conditional that is read has a body for each further condition.
-/
theorem parse_terminates (options : Options) (tokens : List Token) :
    let settings := settingsFor defaultLimit options tokens
    let reader := reader defaultLimit options tokens
    let first := start .initial tokens
    (∀ rounds levels, settings.bound ≤ rounds → defaultLimit ≤ levels →
      (program (settings.allowing rounds) levels (Cursor.complete tokens).length).run first =
        reader.run first) ∧
    (∀ s, Visits reader first s →
      s.cursor.toList = Cursor.complete tokens ∧
      (Cursor.complete tokens)[s.cursor.position]? = some s.cursor.current ∧
      s.cursor.position ≤ (tokens.takeWhile (!·.isEof)).length ∧ s.depth ≤ defaultLimit) ∧
    (∀ earlier later, earlier ++ later <+: reader.commands first →
      (Command.applyAll earlier first).cursor.position ≤
        (Command.applyAll (earlier ++ later) first).cursor.position) ∧
    (∀ earlier, earlier ++ [.rise] <+: reader.commands first →
      0 < (Command.applyAll earlier first).depth) ∧
    (∀ s levels node t, s.cursor.toList = Cursor.complete tokens →
      (statement settings levels).run s = (.ok node, t) →
      s.cursor.position < t.cursor.position) ∧
    ∀ inner sub s node t, (ifStatement settings inner sub).run s = (.ok node, t) →
      ∃ condition thenBody conditions bodies elseBody,
        Node.ofBranches? condition thenBody conditions bodies elseBody = some node := by
  have tokens_eq := start_toList .initial tokens
  refine ⟨fun rounds levels le limit => ?_, fun s visits => ?_, fun earlier later _ => ?_,
    fun earlier rises => ?_, fun s levels node t h run => ?_,
    fun inner sub s node t run => ifStatement_branches run⟩
  · have few := remaining_le_of_toList tokens_eq defaultLimit options
    exact program_rounds_irrelevant _ few le (Nat.le_refl _) limit
  · have ⟨same, place, unended⟩ := cursor_of_visits visits
    rw [tokens_eq] at same place unended
    rw [takeWhile_complete] at unended
    exact ⟨same, place, unended, depth_le_of_visits (Nat.zero_le _) visits⟩
  · exact position_mono earlier later _
  · exact depth_pos_of_rise rises
  · have few := remaining_le_of_toList h defaultLimit options
    obtain ⟨read, some, reads⟩ := statement_moves few run
    rw [reads.position_eq]
    exact Nat.lt_add_of_pos_right (List.length_pos_iff.2 some)

end DeskScript.Parser
