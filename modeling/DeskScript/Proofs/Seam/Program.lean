import DeskScript.Proofs.Seam.Rules

/-!
Programs one after the other. A run on the tokens of both first reads the statements of the first
program and comes to the seam with the scopes that this program leaves; from there it reads the
second one. Both halves are runs along a seam: the first ends where the second program begins, the
second where both files end. Main statement: `Parser.parseFrom_append`.
-/

namespace DeskScript

namespace Cursor

theorem complete_of_unended {tokens : List Token}
    (unended : ∀ token ∈ tokens, token.isEof = false) :
    ∃ ending, ending.isEof = true ∧ complete tokens = tokens ++ [ending] := by
  unfold complete
  split
  next last found =>
    rw [if_neg (by simp [unended last (List.mem_of_getLast? found)])]
    exact ⟨_, rfl, rfl⟩
  next none =>
    rw [List.getLast?_eq_none_iff.1 none]
    exact ⟨_, rfl, rfl⟩

theorem complete_append (first : List Token) {second : List Token} (nonempty : second ≠ []) :
    complete (first ++ second) = first ++ complete second := by
  cases found : second.getLast? with
  | none => exact absurd (List.getLast?_eq_none_iff.1 found) nonempty
  | some last =>
    have found' : (first ++ second).getLast? = some last := by
      rw [List.getLast?_append, found, Option.some_or]
    simp only [complete, found, found']
    split
    · rfl
    · rw [List.append_assoc]

theorem position_of_toList {cursor : Cursor} {tokens : List Token}
    (h : cursor.toList = tokens ++ cursor.remaining) : cursor.position = tokens.length := by
  have passed : cursor.passed.reverse = tokens := List.append_cancel_right h
  rw [position, ← passed, List.length_reverse]

end Cursor

namespace Parser

variable {settings : Settings} {levels : Nat} {p : Parser Node} {s t u : State} {node : Node}
variable {nodes others : List Node}

/-- Reading statements one after the other, none of them at the end of the file. -/
inductive Consecutive (statement : Parser Node) : State → List Node → State → Prop where
  | nil {s : State} : Consecutive statement s [] s
  | cons {s t u : State} {node : Node} {nodes : List Node} : s.cursor.current.isEof = false →
    statement.run s = (.ok node, t) → Consecutive statement t nodes u →
    Consecutive statement s (node :: nodes) u

namespace Consecutive

theorem append (first : Consecutive p s nodes t) (second : Consecutive p t others u) :
    Consecutive p s (nodes ++ others) u := by
  induction first with
  | nil => exact second
  | cons goesOn ran _ ih => exact .cons goesOn ran (ih second)

theorem reads (h : Consecutive p s nodes t) : ∃ tokens, s.cursor.Reads tokens t.cursor := by
  induction h with
  | nil => exact ⟨[], .refl _⟩
  | cons _ ran _ ih =>
    obtain ⟨first, reads⟩ := run_reads p _
    rw [ran] at reads
    obtain ⟨second, reads'⟩ := ih
    exact ⟨first ++ second, reads.trans reads'⟩

theorem depth_eq (h : Consecutive (statement settings levels) s nodes t) : t.depth = s.depth := by
  induction h with
  | nil => rfl
  | @cons s t u node nodes _ ran _ ih =>
    have restored := restored_of_balanced (statement_balanced settings levels s)
    rw [ran] at restored
    exact ih.trans restored.depth

theorem run_topLevel {n rounds : Nat} (h : Consecutive p s nodes t) (moves : Moves n p)
    (few : s.cursor.remaining.length ≤ n) (enough : s.cursor.remaining.length ≤ rounds)
    (ended : t.cursor.current.isEof = true) (read : List Node) :
    (topLevel p read rounds).run s = (.ok (read.reverse ++ nodes), t) := by
  induction h generalizing rounds read with
  | @nil s =>
    have some := s.cursor.remaining_pos
    obtain ⟨rounds, rfl⟩ : ∃ fewer, rounds = fewer + 1 := ⟨rounds - 1, by omega⟩
    rw [topLevel, run_bind_of_ok (run_current s), if_pos ended, List.append_nil, run_pure]
  | @cons s t u node nodes goesOn ran _ ih =>
    have fewer := moves s node t few ran
    obtain ⟨rounds, rfl⟩ : ∃ fewer, rounds = fewer + 1 := ⟨rounds - 1, by omega⟩
    rw [topLevel, run_bind_of_ok (run_current s), if_neg (by simp [goesOn]),
      run_bind_of_ok (run_settled_eq_ok.2 ran), ih (by omega) (by omega) ended]
    simp

end Consecutive

theorem consecutive_of_topLevel {n rounds : Nat} {read all : List Node} (moves : Moves n p)
    (few : s.cursor.remaining.length ≤ n) (enough : s.cursor.remaining.length ≤ rounds)
    (ran : (topLevel p read rounds).run s = (.ok all, t)) :
    ∃ nodes, all = read.reverse ++ nodes ∧ Consecutive p s nodes t ∧
      t.cursor.current.isEof = true := by
  induction rounds generalizing s read with
  | zero => exact absurd enough (by simp [Cursor.remaining])
  | succ rounds ih =>
    rw [topLevel, run_bind_of_ok (run_current s)] at ran
    split at ran
    next ended =>
      obtain ⟨rfl, rfl⟩ := run_pure_eq_ok.1 ran
      exact ⟨[], (List.append_nil _).symm, .nil, ended⟩
    next goesOn =>
      obtain ⟨node, u, first, rest⟩ := run_bind_eq_ok.1 ran
      have first := run_settled_eq_ok.1 first
      have fewer := moves s node u few first
      obtain ⟨nodes, rfl, row, ended⟩ := ih (by omega) (by omega) rest
      exact ⟨node :: nodes, by simp, .cons (by simpa using goesOn) first row, ended⟩

theorem run_program_eq_ok {count : Nat} (few : s.cursor.remaining.length ≤ settings.bound) :
    (program settings levels count).run s = (.ok node, t) ↔
      ∃ nodes u, node = .program nodes ∧
        Consecutive (statement settings levels) ((Command.note (.parsing count)).apply s) nodes u ∧
        u.cursor.current.isEof = true ∧ t = (Command.note (.parsed nodes.length)).apply u := by
  have moves := statement_moves_within settings levels
  rw [program, run_bind_of_ok (run_note _ s), run_bind_eq_ok]
  constructor
  · rintro ⟨nodes, u, ran, rest⟩
    have few' : ((Command.note (.parsing count)).apply s).cursor.remaining.length ≤ _ := few
    obtain ⟨_, rfl, row, ended⟩ := consecutive_of_topLevel moves few' few' ran
    rw [run_bind_of_ok (run_note _ u), run_pure_eq_ok] at rest
    exact ⟨nodes, u, rest.1.symm, row, ended, rest.2.symm⟩
  · rintro ⟨nodes, u, rfl, row, ended, rfl⟩
    exact ⟨nodes, u, row.run_topLevel moves few few ended [], rfl⟩

theorem wordStatement_of_continuation {inner sub : Parser Node} {token : Token} {word : String}
    (inside : word ∈ Token.continuations) :
    (wordStatement settings inner sub token word).run s ≠ (.ok node, t) := by
  simp only [Token.continuations, List.mem_cons, List.not_mem_nil, or_false] at inside
  rcases inside with rfl | rfl | rfl | rfl | rfl | rfl | rfl
  all_goals
    simp [wordStatement, Control.ofWord?, Control.all, Control.word]

theorem fresh_of_unterminated {inner sub : Parser Node}
    (ran : (unterminated settings inner sub).run s = (.ok node, t)) : s.cursor.current.Fresh := by
  rw [unterminated, run_bind_of_ok (run_current s)] at ran
  cases kind : s.cursor.current.kind with
  | keyword =>
    refine ⟨fun sign here => by simp [Token.isOperator, kind] at here, fun word inside => ?_⟩
    rw [Bool.eq_false_iff]
    intro here
    -- a word that goes on with a statement is refused where one should begin
    have upper : ∀ word ∈ Token.continuations, Text.upper word = word := by decide
    rw [kind] at ran
    simp only [keywordStatement, run_bind_of_ok (run_current s), run_bind_of_ok (run_note _ s),
      (Token.isKeyword_iff.1 here).2, upper word inside] at ran
    exact wordStatement_of_continuation inside ran
  | identifier =>
    exact ⟨fun sign here => by simp [Token.isOperator, kind] at here,
      fun word _ => by simp [Token.isKeyword, kind]⟩
  | operator =>
    refine ⟨fun _ _ => ?_, fun word _ => by simp [Token.isKeyword, kind]⟩
    cases step : s.cursor.current.isStep with
    | true => rfl
    | false => simp [kind, step] at ran
  | integer | float | time | string | eof => simp [kind] at ran

theorem fresh_of_statement (ran : (statement settings levels).run s = (.ok node, t))
    (plain : s.cursor.current.isOperator ";" = false) : s.cursor.current.Fresh := by
  cases levels with
  | zero => simp [statement] at ran
  | succ levels =>
    obtain ⟨-, u, inside, -⟩ := run_nested_eq_ok.1 ran
    rw [terminated, run_ifOperator, if_neg (by simpa [Command.apply] using plain)] at inside
    obtain ⟨_, _, first, -⟩ := run_bind_eq_ok.1 inside
    have fresh : (Command.deepen.apply s).cursor.current.Fresh := fresh_of_unterminated first
    exact fresh

theorem Consecutive.fresh {head : Token} (row : Consecutive (statement settings levels) s nodes t)
    (last : t.cursor.current.isEof = true) (starts : s.cursor.remaining.head? = some head)
    (goesOn : head.isEof = false) (plain : head.isOperator ";" = false) : head.Fresh := by
  obtain rfl : s.cursor.current = head := Option.some.inj starts
  cases row with
  | nil => simp [goesOn] at last
  | cons _ ran _ => exact fresh_of_statement ran plain

end Parser

namespace Seam

open DeskScript.Parser

variable {seam : Seam} {levels : Nat} {s s' t : State} {nodes : List Node}

theorem along_consecutive (abreast : seam.Abreast s s')
    (row : Consecutive (statement seam.settings levels) s nodes t) :
    ∃ t', Consecutive (statement seam.settings levels) s' nodes t' ∧ seam.Abreast t t' := by
  induction row generalizing s' with
  | nil => exact ⟨s', .nil, abreast⟩
  | cons goesOn ran _ ih =>
    obtain ⟨u', ran', abreast'⟩ := along_statement levels _ s' abreast _ _ ran
    obtain ⟨t', row', last⟩ := ih abreast'
    exact ⟨t', .cons (by rw [abreast.current_eq goesOn, goesOn]) ran' row', last⟩

theorem consecutive_to_seam (abreast : seam.Abreast s s')
    (row : Consecutive (statement seam.settings levels) s nodes t)
    (ended : t.cursor.current.isEof = true) :
    ∃ t', Consecutive (statement seam.settings levels) s' nodes t' ∧
      t'.cursor.remaining = seam.next :: seam.rest ∧ t'.depth = s.depth ∧ t'.scopes = t.scopes := by
  obtain ⟨t', row', last⟩ := along_consecutive abreast row
  exact ⟨t', row', (last.seam_of_eof ended).2, last.depth.symm.trans row.depth_eq, last.scopes.symm⟩

end Seam

namespace Parser

def opened (scopes : Tracker) (tokens : List Token) : State :=
  (Command.note (.parsing (Cursor.complete tokens).length)).apply (start scopes tokens)

theorem opened_remaining (scopes : Tracker) (tokens : List Token) :
    (opened scopes tokens).cursor.remaining = Cursor.complete tokens :=
  start_remaining scopes tokens

theorem consecutive_of_parseFrom {limit rounds : Nat} {options : Options} {scopes : Tracker}
    {tokens : List Token} {nodes : List Node}
    (le : (settingsFor limit options tokens).bound ≤ rounds)
    (h : (parseFrom limit options scopes tokens).result = .ok (.program nodes)) :
    ∃ t, Consecutive (statement ⟨options, limit, rounds⟩ limit) (opened scopes tokens) nodes t ∧
      t.cursor.current.isEof = true ∧
      t.scopes = (parseFrom limit options scopes tokens).scopes := by
  have few := remaining_le_of_toList (start_toList scopes tokens) limit options
  have same : (program ⟨options, limit, rounds⟩ limit (Cursor.complete tokens).length).run
      (start scopes tokens) = (reader limit options tokens).run (start scopes tokens) :=
    program_rounds_irrelevant _ few le (Nat.le_refl _) (Nat.le_refl _)
  have ran : (reader limit options tokens).run (start scopes tokens) =
      (.ok (.program nodes), ((reader limit options tokens).run (start scopes tokens)).2) :=
    Prod.ext h rfl
  rw [← same, run_program_eq_ok (Nat.le_trans few le)] at ran
  obtain ⟨others, t, program, row, ended, left⟩ := ran
  obtain rfl := Node.program.inj program
  refine ⟨t, row, ended, ?_⟩
  change t.scopes = ((reader limit options tokens).run (start scopes tokens)).2.scopes
  rw [← same, left]
  rfl

theorem Consecutive.parseFrom {limit : Nat} {options : Options} {scopes : Tracker}
    {tokens : List Token} {nodes : List Node} {t : State}
    (row : Consecutive (statement (settingsFor limit options tokens) limit) (opened scopes tokens)
      nodes t) (ended : t.cursor.current.isEof = true) :
    (parseFrom limit options scopes tokens).result = .ok (.program nodes) ∧
      (parseFrom limit options scopes tokens).scopes = t.scopes := by
  have few := remaining_le_of_toList (start_toList scopes tokens) limit options
  have ran : (reader limit options tokens).run (start scopes tokens) = _ :=
    (run_program_eq_ok few).2 ⟨nodes, t, rfl, row, ended, rfl⟩
  rw [Parser.parseFrom, ran]
  exact ⟨rfl, rfl⟩

theorem bound_le_append (limit : Nat) (options : Options) {first second : List Token}
    (unended : ∀ token ∈ first ++ second, token.isEof = false) (nonempty : second ≠ []) :
    (settingsFor limit options first).bound ≤
        (settingsFor limit options (first ++ second)).bound ∧
      (settingsFor limit options second).bound ≤
        (settingsFor limit options (first ++ second)).bound := by
  have ⟨unended₁, unended₂⟩ := List.forall_mem_append.1 unended
  obtain ⟨ending₁, -, complete₁⟩ := Cursor.complete_of_unended unended₁
  obtain ⟨ending₂, -, complete₂⟩ := Cursor.complete_of_unended unended₂
  simp [settingsFor, Cursor.complete_append first nonempty, complete₁, complete₂]

theorem Consecutive.resume {settings : Settings} {levels : Nat} {s s' t : State}
    {nodes : List Node} {tokens : List Token} {ending : Token}
    (row : Consecutive (statement settings levels) s nodes t)
    (last : t.cursor.current.isEof = true) (few : s.cursor.remaining.length ≤ settings.bound)
    (unended : ∀ token ∈ tokens, token.isEof = false) (ended : ending.isEof = true)
    (left : s.cursor.remaining = tokens ++ [ending])
    (left' : s'.cursor.remaining = tokens ++ [ending]) (depth : s.depth = s'.depth)
    (scopes : s.scopes = s'.scopes) :
    ∃ t', Consecutive (statement settings levels) s' nodes t' ∧
      t'.cursor.current.isEof = true ∧ t'.scopes = t.scopes := by
  -- both files end at the seam, so no line has to be told from that of the token after it
  let seam : Seam := ⟨settings, ending, ending, [], ended, Token.fresh_of_eof ended⟩
  have before (token : Token) (mem : token ∈ tokens) : seam.Before token :=
    ⟨unended token mem, fun goesOn => absurd (ended.symm.trans goesOn) nofun⟩
  have abreast : seam.Abreast s s' := ⟨⟨tokens, before, left, left'⟩, few, depth, scopes⟩
  obtain ⟨t', row', here, -, scopes'⟩ := Seam.consecutive_to_seam abreast row last
  have current : t'.cursor.current = ending := (List.cons.inj here).1
  exact ⟨t', row', current ▸ ended, scopes'⟩

theorem Consecutive.before {settings : Settings} {levels : Nat} {s s' t : State}
    {nodes : List Node} {first second : List Token} {head ending : Token}
    (row : Consecutive (statement settings levels) s nodes t)
    (last : t.cursor.current.isEof = true) (few : s.cursor.remaining.length ≤ settings.bound)
    (unended : ∀ token ∈ first, token.isEof = false) (ended : ending.isEof = true)
    (starts : second.head? = some head) (fresh : head.Fresh)
    (apart : ∀ token ∈ first, token.line ≠ head.line)
    (left : s.cursor.remaining = first ++ [ending]) (left' : s'.cursor.remaining = first ++ second)
    (depth : s.depth = s'.depth) (scopes : s.scopes = s'.scopes) :
    ∃ t', Consecutive (statement settings levels) s' nodes t' ∧ t'.cursor.remaining = second ∧
      t'.depth = s.depth ∧ t'.scopes = t.scopes := by
  obtain ⟨rest, rfl⟩ := List.head?_eq_some_iff.1 starts
  let seam : Seam := ⟨settings, ending, head, rest, ended, fresh⟩
  have before (token : Token) (mem : token ∈ first) : seam.Before token :=
    ⟨unended token mem, fun _ => apart token mem⟩
  have abreast : seam.Abreast s s' := ⟨⟨first, before, left, left'⟩, few, depth, scopes⟩
  exact Seam.consecutive_to_seam abreast row last

/--
Programs can be put one after the other: if the second is read from the scopes that the first
leaves, begins on a line of its own and does not begin with `;`, then the tokens of both are read
as the statements of the first and those of the second, and leave the scopes that the second leaves.
The statements of the first take up none of the tokens of the second: after them the run is at the
second's first token, with the scopes that the first leaves.
-/
theorem parseFrom_append {limit : Nat} {options : Options} {scopes : Tracker}
    {first second : List Token} {head : Token} {before after : List Node}
    (unended : ∀ token ∈ first ++ second, token.isEof = false) (starts : second.head? = some head)
    (plain : head.isOperator ";" = false) (apart : ∀ token ∈ first, token.line ≠ head.line)
    (hfirst : (parseFrom limit options scopes first).result = .ok (.program before))
    (hsecond : (parseFrom limit options (parseFrom limit options scopes first).scopes second).result
      = .ok (.program after)) :
    (parseFrom limit options scopes (first ++ second)).result = .ok (.program (before ++ after)) ∧
    (parseFrom limit options scopes (first ++ second)).scopes =
      (parseFrom limit options (parseFrom limit options scopes first).scopes second).scopes ∧
    ∃ t, Consecutive (statement (settingsFor limit options (first ++ second)) limit)
        (start scopes (first ++ second)) before t ∧
      t.cursor.position = first.length ∧
      t.scopes = (parseFrom limit options scopes first).scopes := by
  have ⟨unended₁, unended₂⟩ := List.forall_mem_append.1 unended
  obtain ⟨ending₁, ended₁, complete₁⟩ := Cursor.complete_of_unended unended₁
  obtain ⟨ending₂, ended₂, complete₂⟩ := Cursor.complete_of_unended unended₂
  have nonempty : second ≠ [] := by rintro rfl; simp at starts
  have whole := Cursor.complete_append first nonempty
  have starts' : (Cursor.complete second).head? = some head := by
    rw [complete₂, List.head?_append, starts, Option.some_or]
  -- the runs are compared with as many rounds as the tokens of both programs are given
  have ⟨le₁, le₂⟩ := bound_le_append limit options unended nonempty
  have few₁ : (opened scopes first).cursor.remaining.length ≤ _ :=
    opened_remaining scopes first ▸ Nat.le_of_succ_le le₁
  have few₂ (scopes : Tracker) : (opened scopes second).cursor.remaining.length ≤ _ :=
    opened_remaining scopes second ▸ Nat.le_of_succ_le le₂
  obtain ⟨t, row₁, last₁, left₁⟩ := consecutive_of_parseFrom le₁ hfirst
  obtain ⟨u, row₂, last₂, left₂⟩ := consecutive_of_parseFrom le₂ hsecond
  have goesOn : head.isEof = false := unended₂ head (List.mem_of_head? starts)
  have fresh : head.Fresh := row₂.fresh last₂ (opened_remaining _ second ▸ starts') goesOn plain
  have joined (s' : State) (left : s'.cursor.remaining = first ++ Cursor.complete second) :=
    row₁.before last₁ few₁ unended₁ ended₁ starts' fresh apart
      ((opened_remaining scopes first).trans complete₁) left
  obtain ⟨t', row₁', here, depth, scopes₁⟩ :=
    joined (opened scopes (first ++ second)) ((opened_remaining ..).trans whole) rfl rfl
  obtain ⟨u', row₂', last, scopes₂⟩ :=
    row₂.resume last₂ (few₂ _) unended₂ ended₂ ((opened_remaining ..).trans complete₂)
      (here.trans complete₂) depth.symm (left₁.symm.trans scopes₁.symm)
  have ⟨result, left⟩ := (row₁'.append row₂').parseFrom last
  obtain ⟨v, row, place, -, scopes'⟩ :=
    joined (start scopes (first ++ second)) ((start_remaining ..).trans whole) rfl rfl
  refine ⟨result, left.trans (scopes₂.trans left₂), v, row, ?_, scopes'.trans left₁⟩
  obtain ⟨tokens, reads⟩ := row.reads
  refine Cursor.position_of_toList ?_
  rw [reads.toList_eq, start_toList, whole, place]

def setLine : List Token :=
  [⟨.keyword, some "SET", 1⟩, ⟨.identifier, some "x", 1⟩, ⟨.operator, some ":", 1⟩,
    ⟨.identifier, some "INT", 1⟩, ⟨.operator, some "=", 1⟩, ⟨.integer, some "1", 1⟩,
    ⟨.keyword, some "PRINT", 1⟩, ⟨.identifier, some "x", 1⟩]

def stepLine : List Token :=
  [⟨.operator, some "++", 2⟩, ⟨.identifier, some "x", 2⟩, ⟨.keyword, some "SET", 2⟩,
    ⟨.identifier, some "x", 2⟩, ⟨.operator, some "=", 2⟩, ⟨.integer, some "2", 2⟩]

theorem parseFrom_append_stepped :
    (parse ⟨true, true⟩ (setLine ++ stepLine)).result = .ok (.program
      [.assignment "x" (.integer 1) (some "INT"), .printStatement "PRINT" (.identifier "x"),
        .update "x" "++" true, .assignment "x" (.integer 2) (some "INT")]) := by
  have unended : ∀ token ∈ setLine ++ stepLine, token.isEof = false := by decide
  have apart : ∀ token ∈ setLine, token.line ≠ 2 := by decide
  have first : (parse ⟨true, true⟩ setLine).result = .ok (.program
      [.assignment "x" (.integer 1) (some "INT"), .printStatement "PRINT" (.identifier "x")]) := rfl
  have second : (parseFrom defaultLimit ⟨true, true⟩ (parse ⟨true, true⟩ setLine).scopes
      stepLine).result = .ok (.program
        [.update "x" "++" true, .assignment "x" (.integer 2) (some "INT")]) := rfl
  exact (parseFrom_append unended rfl (by decide) apart first second).1

end Parser

end DeskScript
