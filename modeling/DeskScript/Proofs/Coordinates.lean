import DeskScript.Proofs.Parser.Fork
import DeskScript.Proofs.Parser.Success
import DeskScript.Proofs.Seam.Program

/-!
Where the mouse is moved to. The parenthesis that may open the coordinates is taken before any
expression is read, so a first coordinate without parentheses around both must not begin with one
of its own: `(1) + 2, 3` is refused after `(1`. Main statement: `coordinates_read`.
-/

namespace DeskScript.Parser

variable {options : Options} {tracker : Tracker} {tokens whole rest : List Token} {next : Token}
variable {settings : Settings} {count : Nat} {K : Tracker → Prop} {inner : Parser Node}
variable {node : Node} {s t : State}

def startInside (scopes : Tracker) (tokens : List Token) : State :=
  { start scopes tokens with depth := 1 }

/-- Inside a statement, an expression takes in these tokens from the first to the last. -/
def Expresses (options : Options) (scopes : Tracker) (tokens : List Token) (node : Node) : Prop :=
  ∃ t, (expression (settingsFor defaultLimit options tokens) (defaultLimit - 1) 1).run
      (startInside scopes tokens) = (.ok node, t) ∧ t.cursor.position = tokens.length

theorem Expresses.unended (h : Expresses options tracker tokens node) :
    ∀ token ∈ tokens, token.isEof = false := by
  obtain ⟨t, ran, all⟩ := h
  obtain ⟨read, reads⟩ := run_reads (expression (settingsFor defaultLimit options tokens)
    (defaultLimit - 1) 1) (startInside tracker tokens)
  rw [ran] at reads
  have place := t.cursor.current_at.2
  rw [reads.toList_eq, all] at place
  change _ ≤ ((start tracker tokens).cursor.toList.takeWhile _).length at place
  rw [start_toList, takeWhile_complete] at place
  have goesOn := (List.takeWhile_prefix fun token : Token => !token.isEof).eq_of_length_le place
  intro token mem
  rw [← goesOn] at mem
  simpa using List.all_eq_true.1 List.all_takeWhile token mem

theorem Expresses.run (h : Expresses options tracker tokens node) (whole : List Token)
    (few : tokens.length + 1 ≤ (settingsFor defaultLimit options whole).bound) :
    ∃ ending t, ending.isEof = true ∧
      (startInside tracker tokens).cursor.remaining = tokens ++ [ending] ∧
      (expression (settingsFor defaultLimit options whole) (defaultLimit - 1) 1).run
        (startInside tracker tokens) = (.ok node, t) ∧
      t.cursor.current.isEof = true ∧ t.depth = 1 ∧ t.scopes = tracker := by
  obtain ⟨ending, ended, complete⟩ := Cursor.complete_of_unended h.unended
  obtain ⟨t, ran, all⟩ := h
  have left : (startInside tracker tokens).cursor.remaining = tokens ++ [ending] := by
    change (Cursor.ofList _ _).remaining = _
    rw [Cursor.ofList_remaining, complete]
  have length : (startInside tracker tokens).cursor.remaining.length = tokens.length + 1 := by
    rw [left, List.length_append, List.length_singleton]
  have bound : tokens.length + 1 ≤ (settingsFor defaultLimit options tokens).bound := by
    change _ ≤ (Cursor.complete tokens).length + 1
    rw [complete, List.length_append, List.length_singleton]
    omega
  -- more rounds than there are tokens make no difference
  have same : Same 1 (expression (settingsFor defaultLimit options tokens) (defaultLimit - 1) 1)
      (expression (settingsFor defaultLimit options whole) (defaultLimit - 1) 1)
      (startInside tracker tokens) :=
    (agree_simulation bound few).expression 1 (.inl rfl) _ (Nat.le_of_eq length) rfl
  obtain ⟨read, reads, -, scopes⟩ := expression_sound (settingsFor defaultLimit options tokens)
    (by decide) _ node t (length ▸ bound) ran
  have depth := same.depth
  rw [ran] at depth
  refine ⟨ending, t, ended, left, same.run ▸ ran, ?_, depth, scopes⟩
  have first : (startInside tracker tokens).cursor.position = 0 :=
    congrArg List.length (Cursor.ofList_passed _ _)
  have position := reads.position_eq
  have split := reads.remaining
  rw [left] at split
  have last := (List.append_inj split (by omega)).2
  rw [← (List.cons.inj last).1]
  exact ended

theorem Expresses.fork (h : Expresses options tracker tokens node) (stops : next.Stops)
    (here : At (settingsFor defaultLimit options whole) (defaultLimit - 1)
      (tokens ++ next :: rest) (· = tracker) s) :
    ∃ (fork : Fork) (t : State), fork.next = next ∧ fork.rest = rest ∧
      fork.Abreast (startInside tracker tokens) s ∧
      (startInside tracker tokens).cursor.remaining = tokens ++ [fork.ending] ∧
      (expression (settingsFor defaultLimit options whole) (defaultLimit - 1) 1).run
        (startInside tracker tokens) = (.ok node, t) ∧
      t.cursor.current.isEof = true ∧ t.depth = 1 ∧ t.scopes = tracker := by
  have few := here.few
  rw [List.length_append, List.length_cons] at few
  have room : s.depth + 127 ≤ 128 := here.room
  obtain ⟨ending, t, ended, left, run⟩ := h.run whole (by omega)
  exact ⟨⟨ending, next, rest, ended, stops⟩, t, rfl, rfl,
    ⟨⟨tokens, h.unended, left, here.remaining⟩, Nat.le_of_add_le_add_right room, here.known⟩,
    left, run⟩

theorem gives_expression (h : Expresses options tracker tokens node) (stops : next.Stops)
    (here : At (settingsFor defaultLimit options whole) (defaultLimit - 1)
      (tokens ++ next :: rest) (· = tracker) s) :
    Gives (expression (settingsFor defaultLimit options whole) (defaultLimit - 1) 1) s node
      (At (settingsFor defaultLimit options whole) (defaultLimit - 1) (next :: rest)
        (· = tracker)) := by
  obtain ⟨fork, t, rfl, rfl, abreast, -, ran, last, depth, scopes⟩ := h.fork stops here
  obtain ⟨t', ran', there⟩ := fork.along_expression _ (Nat.le_refl _) 1 _ s abreast node t ran
  refine ⟨t', ran', there.remaining_of_eof last, ?_, ?_, there.scopes.trans scopes⟩
  · exact Nat.add_le_add_right (depth ▸ there.depth) (defaultLimit - 1)
  · have few := here.few
    rw [List.length_append] at few
    omega

theorem current_mem_of_run {α : Type} {p : Parser α} {result : Except Diagnostic α}
    (ran : p.run s = (result, t)) : t.cursor.current ∈ s.cursor.remaining := by
  obtain ⟨read, reads⟩ := run_reads p s
  rw [ran] at reads
  rw [reads.remaining]
  exact List.mem_append_right _ List.mem_cons_self

theorem run_primary_of_opening (opening : s.cursor.current.isOperator "(" = true) :
    (primary settings inner).run s = (enclosed inner).run s := by
  have kind := (Token.isOperator_iff.1 opening).1
  rw [primary, run_bind_of_ok (run_current s), kind]
  dsimp only
  rw [if_pos opening]

theorem stopped_expression (h : Expresses options tracker tokens node) (stops : next.Stops)
    (opening : tokens.head?.any (·.isOperator "(") = true)
    (here : At (settingsFor defaultLimit options whole) (defaultLimit - 1)
      (tokens ++ next :: rest) (· = tracker) s) :
    s.cursor.current.isOperator "(" = true ∧ ∃ inside t,
      (expression (settingsFor defaultLimit options whole) (defaultLimit - 1) 1).run s.advance =
        (.ok inside, t) ∧ t.cursor.current ∈ tokens ∧ t.cursor.current.isOperator ")" = true := by
  obtain ⟨fork, t, rfl, rfl, abreast, left, ran, -⟩ := h.fork stops here
  have first : (startInside tracker tokens).cursor.current.isOperator "(" = true := by
    cases tokens with
    | nil => simp at opening
    | cons token others =>
      have current : (startInside tracker (token :: others)).cursor.current = token :=
        (List.cons.inj left).1
      rw [current]
      exact opening
  have goesOn := Token.not_eof_of_operator first
  -- the parenthesis is passed one level deeper in the expression than in the coordinates
  have deeper : fork.Abreast (Command.deepen.apply (startInside tracker tokens)) s :=
    ⟨abreast.tokens, Nat.le_succ_of_le abreast.depth, abreast.scopes⟩
  obtain ⟨-, u, ran, -⟩ := run_nested_eq_ok.1 ran
  obtain ⟨operand, v, ran, -⟩ := run_bind_eq_ok.1 ran
  rw [run_primary_of_opening (s := Command.deepen.apply (startInside tracker tokens)) first] at ran
  simp only [enclosed, run_bind_eq_ok, run_advance, run_expectOperator_eq_ok, Prod.mk.injEq] at ran
  obtain ⟨_, _, ⟨-, rfl⟩, inside, w, ran, _, _, ⟨closing, -⟩, -⟩ := ran
  obtain ⟨w', ran', there⟩ := fork.along_expression _ (Nat.le_succ _) 1 _ s.advance
    (deeper.advance goesOn) inside w ran
  have current := there.current_eq (Token.not_eof_of_operator closing)
  refine ⟨?_, inside, w', ran', ?_, current ▸ closing⟩
  · rw [abreast.current_eq goesOn]
    exact first
  · have mem := current_mem_of_run (p := do advance; _) ran
    change w.cursor.current ∈ (startInside tracker tokens).cursor.remaining at mem
    rw [left] at mem
    rw [current]
    refine (List.mem_append.1 mem).resolve_right fun last => ?_
    rw [List.mem_singleton.1 last] at closing
    exact Bool.false_ne_true ((Token.not_eof_of_operator closing).symm.trans fork.ended)

def coordinates (expression : Parser Node) : Parser Node := do
  let enclosed ← acceptOperator "("
  let x ← expression
  expectOperator "," .coordinateComma
  let y ← expression
  closeCoordinates enclosed
  return .moveMouse x y

theorem run_unterminated_of_move (settings : Settings) (inner sub : Parser Node)
    (word : s.cursor.current.isKeyword "MOVE" = true) :
    (unterminated settings inner sub).run s =
      (moveMouse inner).run ((Command.note (.statement "MOVE" s.cursor.current.line)).apply s) := by
  obtain ⟨kind, text⟩ := Token.isKeyword_iff.1 word
  have upper : Text.upper s.cursor.current.text = "MOVE" := text.trans (by decide)
  rw [unterminated, run_bind_of_ok (run_current s), kind]
  dsimp only
  rw [keywordStatement, run_bind_of_ok (run_current s), upper, run_bind_of_ok (run_note _ s)]
  rfl

theorem run_statement_of_move (levels : Nat) {result : Except Diagnostic Node}
    (word : s.cursor.current.isKeyword "MOVE" = true) (room : s.depth < settings.limit)
    (ran : (do
        let node ← moveMouse (expression settings levels 1)
        let _ ← acceptOperator ";"
        return node : Parser Node).run
      ((Command.note (.statement "MOVE" s.cursor.current.line)).apply (Command.deepen.apply s)) =
        (result, t)) :
    (statement settings (levels + 1)).run s = (result, Command.rise.apply t) := by
  have notAlone : (Command.deepen.apply s).cursor.current.isOperator ";" = false := by
    change s.cursor.current.isOperator ";" = false
    simp [Token.isOperator, (Token.isKeyword_iff.1 word).1]
  have inside := run_unterminated_of_move settings (expression settings levels 1)
    (statement settings levels) (s := Command.deepen.apply s) word
  have read : (terminated settings (expression settings levels 1) (statement settings levels)).run
      (Command.deepen.apply s) = (result, t) := by
    rw [terminated, run_ifOperator, notAlone, if_neg Bool.false_ne_true, run_bind, inside]
    rw [run_bind] at ran
    exact ran
  rw [statement, run_nested, if_neg (Nat.not_le.2 room), run_between]
  simp only [applyAll_cons, applyAll_nil, read]

structure Moving (move mouse goal : Token) : Prop where
  move : move.isKeyword "MOVE" = true
  mouse : mouse.isKeyword "MOUSE" = true
  goal : goal.isKeyword "TO" = true

theorem run_moveMouse (inner : Parser Node) {move mouse goal : Token}
    (words : Moving move mouse goal)
    (h : At settings count (move :: mouse :: goal :: rest) K s) :
    ∃ t, At settings count rest K t ∧ (moveMouse inner).run s = (coordinates inner).run t := by
  obtain ⟨t, run, ht⟩ := gives_advance h (Token.not_eof_of_keyword words.move)
  obtain ⟨u, run', hu⟩ : Gives (expectKeyword "MOUSE" .mouse) t () _ :=
    gives_expectKeyword ht words.mouse
  obtain ⟨v, run'', hv⟩ : Gives (expectKeyword "TO" .destination) u () _ :=
    gives_expectKeyword hu words.goal
  refine ⟨v, hv, ?_⟩
  rw [moveMouse, run_bind_of_ok run, run_bind_of_ok run', run_bind_of_ok run'']
  rfl

theorem result_of_refused {d : Diagnostic}
    (goesOn : (opened tracker tokens).cursor.current.isEof = false)
    (refused : (statement (settingsFor defaultLimit options tokens) defaultLimit).run
      (opened tracker tokens) = (.error d, t)) :
    (parseFrom defaultLimit options tracker tokens).result = .error d.settle := by
  have top : ∃ u, (topLevel (statement (settingsFor defaultLimit options tokens) defaultLimit) []
      ((Cursor.complete tokens).length + 1)).run (opened tracker tokens) =
        (.error d.settle, u) := by
    rw [topLevel, run_bind_of_ok (run_current _), if_neg (by simp [goesOn]), run_bind, run_settled,
      refused]
    exact ⟨_, rfl⟩
  obtain ⟨u, top⟩ := top
  change ((do
      let statements ← topLevel (statement (settingsFor defaultLimit options tokens) defaultLimit)
        [] ((Cursor.complete tokens).length + 1)
      note (.parsed statements.length)
      return Node.program statements : Parser Node).run (opened tracker tokens)).1 = _
  rw [run_bind, top]

theorem at_coordinates (options : Options) (tracker : Tracker) {move mouse goal : Token}
    (words : Moving move mouse goal) (unended : ∀ token ∈ rest, token.isEof = false)
    (inner : Parser Node) :
    let before := opened tracker (move :: mouse :: goal :: rest)
    before.cursor.current = move ∧ ∃ ending s, ending.isEof = true ∧
      At (settingsFor defaultLimit options (move :: mouse :: goal :: rest)) (defaultLimit - 1)
        (rest ++ [ending]) (· = tracker) s ∧
      (moveMouse inner).run ((Command.note (.statement "MOVE" before.cursor.current.line)).apply
        (Command.deepen.apply before)) = (coordinates inner).run s := by
  intro before
  have all : ∀ token ∈ move :: mouse :: goal :: rest, token.isEof = false := by
    simpa [Token.not_eof_of_keyword words.move, Token.not_eof_of_keyword words.mouse,
      Token.not_eof_of_keyword words.goal] using unended
  obtain ⟨ending, ended, complete⟩ := Cursor.complete_of_unended all
  have remaining : before.cursor.remaining = move :: mouse :: goal :: (rest ++ [ending]) :=
    (opened_remaining tracker _).trans complete
  have inside : At (settingsFor defaultLimit options (move :: mouse :: goal :: rest))
      (defaultLimit - 1) (move :: mouse :: goal :: (rest ++ [ending])) (· = tracker)
      ((Command.note (.statement "MOVE" before.cursor.current.line)).apply
        (Command.deepen.apply before)) := by
    refine ⟨remaining, Nat.le_refl defaultLimit, ?_, rfl⟩
    change _ ≤ (Cursor.complete _).length + 1
    rw [complete]
    exact Nat.le_succ _
  obtain ⟨s, here, same⟩ := run_moveMouse inner words inside
  exact ⟨(List.cons.inj remaining).1, ending, s, ended, here, same⟩

theorem result_of_coordinates (options : Options) (tracker : Tracker) {move mouse goal : Token}
    (words : Moving move mouse goal) (unended : ∀ token ∈ rest, token.isEof = false) :
    let settings := settingsFor defaultLimit options (move :: mouse :: goal :: rest)
    let result := (parseFrom defaultLimit options tracker (move :: mouse :: goal :: rest)).result
    ∃ ending s, ending.isEof = true ∧
      At settings (defaultLimit - 1) (rest ++ [ending]) (· = tracker) s ∧
      (∀ node t, (coordinates (expression settings (defaultLimit - 1) 1)).run s = (.ok node, t) →
        t.cursor.current.isEof = true → result = .ok (.program [node])) ∧
      ∀ d t, (coordinates (expression settings (defaultLimit - 1) 1)).run s = (.error d, t) →
        d.isControlFlow = false → result = .error d := by
  intro settings result
  obtain ⟨current, ending, s, ended, here, same⟩ := at_coordinates options tracker words unended
    (expression settings (defaultLimit - 1) 1)
  let before := opened tracker (move :: mouse :: goal :: rest)
  have first : before.cursor.current.isKeyword "MOVE" = true := current ▸ words.move
  have goesOn := Token.not_eof_of_keyword first
  have room : before.depth < settings.limit := Nat.zero_lt_succ _
  refine ⟨ending, s, ended, here, fun node t ran last => ?_, fun d t ran plain => ?_⟩
  -- the file ends after the coordinates, so there is no semicolon to take
  · have alone : t.cursor.current.isOperator ";" = false := by
      rw [Bool.eq_false_iff]
      intro semicolon
      rw [Token.not_eof_of_operator semicolon] at last
      cases last
    have statement : (statement settings defaultLimit).run before =
        (.ok node, Command.rise.apply t) := by
      refine run_statement_of_move (defaultLimit - 1) first room ?_
      rw [run_bind_of_ok (same.trans ran), run_bind_of_ok (run_acceptOperator ";" t), alone]
      rfl
    exact ((Consecutive.cons goesOn statement .nil).parseFrom last).1
  · have refused : (statement settings defaultLimit).run before =
        (.error d, Command.rise.apply t) := by
      refine run_statement_of_move (defaultLimit - 1) first room ?_
      rw [run_bind, same.trans ran]
    have result := result_of_refused goesOn refused
    rwa [Diagnostic.settle, plain] at result

section

variable {first second : List Token} {opening comma closing ending : Token} {x y : Node}

theorem gives_coordinates (enclosed : Bool) {after : List Token}
    (hx : Expresses options tracker first x) (hy : Expresses options tracker second y)
    (separates : comma.isOperator "," = true) (stops : next.Stops)
    (closes : ∀ t, At (settingsFor defaultLimit options whole) (defaultLimit - 1) (next :: rest)
        (· = tracker) t →
      Gives (closeCoordinates enclosed) t () (At (settingsFor defaultLimit options whole)
        (defaultLimit - 1) after (· = tracker)))
    (here : At (settingsFor defaultLimit options whole) (defaultLimit - 1)
      (first ++ comma :: (second ++ next :: rest)) (· = tracker) s) :
    let inner := expression (settingsFor defaultLimit options whole) (defaultLimit - 1) 1
    Gives (do
        let x ← inner
        expectOperator "," .coordinateComma
        let y ← inner
        closeCoordinates enclosed
        return Node.moveMouse x y) s (.moveMouse x y)
      (At (settingsFor defaultLimit options whole) (defaultLimit - 1) after (· = tracker)) := by
  have stops' : comma.Stops := Token.stops_of_sign (.inl rfl) separates
  refine (gives_expression hx stops' here).bind fun t ht => ?_
  refine (gives_expectOperator ht separates).bind fun u hu => ?_
  refine (gives_expression hy stops hu).bind fun v hv => ?_
  exact (closes v hv).bind fun w hw => .pure hw

theorem enclosed_read {move mouse goal : Token} (words : Moving move mouse goal)
    (opens : opening.isOperator "(" = true) (separates : comma.isOperator "," = true)
    (closes : closing.isOperator ")" = true) (hx : Expresses options tracker first x)
    (hy : Expresses options tracker second y) :
    (parseFrom defaultLimit options tracker
      (move :: mouse :: goal :: opening :: (first ++ comma :: (second ++ [closing])))).result =
        .ok (.program [.moveMouse x y]) := by
  have unended : ∀ token ∈ opening :: (first ++ comma :: (second ++ [closing])),
      token.isEof = false := by
    simpa [or_imp, forall_and, Token.not_eof_of_operator separates,
      Token.not_eof_of_operator opens, Token.not_eof_of_operator closes] using
      ⟨hx.unended, hy.unended⟩
  obtain ⟨ending, s, ended, here, accepted, -⟩ :=
    result_of_coordinates options tracker words unended
  have stops : closing.Stops := Token.stops_of_sign (.inr rfl) closes
  simp only [List.cons_append, List.append_assoc, List.nil_append] at here
  obtain ⟨u, passed, inside⟩ := gives_acceptOperator here opens
  obtain ⟨t, ran, there⟩ := gives_coordinates true hx hy separates stops
    (fun u hu => gives_expectOperator hu closes) inside
  refine accepted _ t ?_ (there.current ▸ ended)
  rw [coordinates, run_bind_of_ok passed]
  exact ran

theorem bare_read {move mouse goal : Token} (words : Moving move mouse goal)
    (separates : comma.isOperator "," = true) (hx : Expresses options tracker first x)
    (hy : Expresses options tracker second y)
    (plain : first.head?.any (·.isOperator "(") = false) :
    (parseFrom defaultLimit options tracker
      (move :: mouse :: goal :: (first ++ comma :: second))).result =
        .ok (.program [.moveMouse x y]) := by
  have unended : ∀ token ∈ first ++ comma :: second, token.isEof = false := by
    simpa [or_imp, forall_and, Token.not_eof_of_operator separates] using ⟨hx.unended, hy.unended⟩
  obtain ⟨ending, s, ended, here, accepted, -⟩ :=
    result_of_coordinates options tracker words unended
  simp only [List.cons_append, List.append_assoc] at here
  have opens : s.cursor.current.isOperator "(" = false := by
    cases first with
    | nil =>
      rw [here.current]
      exact (Token.stops_of_sign (.inl rfl) separates).call
    | cons token others =>
      rw [here.current]
      exact plain
  obtain ⟨t, ran, there⟩ := gives_coordinates false hx hy separates (Token.stops_of_eof ended)
    (fun u hu => Gives.pure hu) here
  refine accepted _ t ?_ (there.current ▸ ended)
  rw [coordinates, run_bind_of_ok (run_acceptOperator "(" s), opens]
  exact ran

theorem bare_refused {move mouse goal : Token} (words : Moving move mouse goal)
    (separates : comma.isOperator "," = true) (hx : Expresses options tracker first x)
    (hy : Expresses options tracker second y)
    (opens : first.head?.any (·.isOperator "(") = true) :
    ∃ closing ∈ first, closing.isOperator ")" = true ∧
      (parseFrom defaultLimit options tracker
        (move :: mouse :: goal :: (first ++ comma :: second))).result =
          .error ⟨.expected .coordinateComma closing.kind closing.text, closing.line⟩ := by
  have unended : ∀ token ∈ first ++ comma :: second, token.isEof = false := by
    simpa [or_imp, forall_and, Token.not_eof_of_operator separates] using ⟨hx.unended, hy.unended⟩
  obtain ⟨ending, s, ended, here, -, refused⟩ :=
    result_of_coordinates options tracker words unended
  simp only [List.cons_append, List.append_assoc] at here
  have stops : comma.Stops := Token.stops_of_sign (.inl rfl) separates
  obtain ⟨opening, inside, t, ran, mem, closes⟩ := stopped_expression hx stops opens here
  refine ⟨t.cursor.current, mem, closes, refused _ t ?_ rfl⟩
  have missing : (expectOperator "," .coordinateComma).run t =
      (.error ⟨.expected .coordinateComma t.cursor.current.kind t.cursor.current.text,
        t.cursor.current.line⟩, t) := by
    have other : t.cursor.current.isOperator "," = false := by
      simp [Token.isOperator, Token.isOperator_iff.1 closes]
    rw [expectOperator, run_ifOperator, other]
    rfl
  rw [coordinates, run_bind_of_ok (run_acceptOperator "(" s), opening, if_pos rfl,
    run_bind_of_ok ran, run_bind, missing]

/--
Coordinates in parentheses are read, whatever expressions they are. Without parentheses they are
read as well, unless the first one begins with a parenthesis: that one is taken for the one that
opens the coordinates, and the script is refused where it is closed, because no comma stands there.
-/
theorem coordinates_read {move mouse goal : Token} (words : Moving move mouse goal)
    (opens : opening.isOperator "(" = true) (separates : comma.isOperator "," = true)
    (closes : closing.isOperator ")" = true) (hx : Expresses options tracker first x)
    (hy : Expresses options tracker second y) :
    (parseFrom defaultLimit options tracker
      (move :: mouse :: goal :: opening :: (first ++ comma :: (second ++ [closing])))).result =
        .ok (.program [.moveMouse x y]) ∧
    let bare := parseFrom defaultLimit options tracker
      (move :: mouse :: goal :: (first ++ comma :: second))
    (first.head?.any (·.isOperator "(") = false → bare.result = .ok (.program [.moveMouse x y])) ∧
    (first.head?.any (·.isOperator "(") = true → ∃ closing ∈ first,
      closing.isOperator ")" = true ∧
        bare.result = .error ⟨.expected .coordinateComma closing.kind closing.text,
          closing.line⟩) :=
  ⟨enclosed_read words opens separates closes hx hy, bare_read words separates hx hy,
    bare_refused words separates hx hy⟩

end

def parenthesizedSum : List Token :=
  [⟨.operator, some "(", 1⟩, ⟨.integer, some "1", 1⟩, ⟨.operator, some ")", 1⟩,
    ⟨.operator, some "+", 1⟩, ⟨.integer, some "2", 1⟩]

/-- `(1) + 2` and `3` in parentheses. -/
theorem coordinates_read_sum :
    Expresses .none .initial parenthesizedSum
        (.binaryOperation "+" (.integer 1) (.integer 2)) ∧
      Expresses .none .initial [⟨.integer, some "3", 1⟩] (.integer 3) ∧
      (parse .none (⟨.keyword, some "MOVE", 1⟩ :: ⟨.keyword, some "MOUSE", 1⟩ ::
        ⟨.keyword, some "to", 1⟩ :: ⟨.operator, some "(", 1⟩ :: (parenthesizedSum ++
          ⟨.operator, some ",", 1⟩ :: ([⟨.integer, some "3", 1⟩] ++
            [⟨.operator, some ")", 1⟩])))).result =
        .ok (.program [.moveMouse (.binaryOperation "+" (.integer 1) (.integer 2))
          (.integer 3)]) := by
  have sum : Expresses .none .initial parenthesizedSum
      (.binaryOperation "+" (.integer 1) (.integer 2)) := ⟨_, rfl, rfl⟩
  have three : Expresses .none .initial [⟨.integer, some "3", 1⟩] (.integer 3) := ⟨_, rfl, rfl⟩
  exact ⟨sum, three, (coordinates_read ⟨by decide, by decide, by decide⟩ rfl rfl rfl sum three).1⟩

/-- `MOVE MOUSE TO (1) + 2, 3` is refused. -/
theorem bare_coordinates_refused :
    Expresses .none .initial parenthesizedSum
        (.binaryOperation "+" (.integer 1) (.integer 2)) ∧
      Expresses .none .initial [⟨.integer, some "3", 1⟩] (.integer 3) ∧
      (parse .none (⟨.keyword, some "MOVE", 1⟩ :: ⟨.keyword, some "MOUSE", 1⟩ ::
        ⟨.keyword, some "TO", 1⟩ :: (parenthesizedSum ++ ⟨.operator, some ",", 1⟩ ::
          [⟨.integer, some "3", 1⟩]))).result =
        .error ⟨.expected .coordinateComma .operator ")", 1⟩ :=
  ⟨⟨_, rfl, rfl⟩, ⟨_, rfl, rfl⟩, rfl⟩

end DeskScript.Parser
