import DeskScript.Proofs.Seam.Program
import DeskScript.Proofs.Semicolon.Rules

/-!
A semicolon after a statement that has none makes no difference to a program. The run on the tokens
with the semicolon goes along with the other one up to the place, and the end of the statement takes
both behind it. Main statement: `Parser.parse_terminated`.
-/

namespace DeskScript

namespace Parser

def State.ended (s : State) : State :=
  if s.cursor.current.isOperator ";" then s.advance else (Command.note bareEnd).apply s

theorem run_watchedEnd (node : Node) (s : State) :
    (watchedEnd node).run s = (.ok node, s.ended) := by
  rw [watchedEnd, run_ifOperator, State.ended]
  split <;> rfl

end Parser

namespace Insertion

open DeskScript.Parser

variable {ins : Insertion} {inner sub : Parser Node} {p p' : Parser Node} {s s' t : State}

theorem marked_watchedEnd (node : Node) :
    ins.Marked (watchedEnd node) s ↔ ¬ s.cursor.current.isOperator ";" = true ∧ ins.Here s := by
  change BareAt _ (Parser.bind (if s.cursor.current.isOperator ";" then _ else _) _) s ↔ _
  split
  next sign =>
    refine ⟨?_, fun bare => absurd sign bare.1⟩
    rintro (⟨⟨⟩, -⟩ | ⟨⟨⟩⟩)
  next sign =>
    refine ⟨?_, fun bare => .inl ⟨rfl, bare.2⟩⟩
    rintro (⟨-, here⟩ | ⟨⟨⟩⟩)
    exact ⟨sign, here⟩

theorem Behind.ended (h : ins.Behind s s') : ins.Behind s.ended s'.ended := by
  unfold State.ended
  rw [h.current_eq]
  split
  · exact h.advance
  · exact ⟨⟨h.few, h.depth, h.scopes⟩, h.tokens⟩

theorem Before.ended (h : ins.Before s s') (ahead : ¬ ins.Here s) :
    ins.Before s.ended s'.ended := by
  have ⟨_, same, further⟩ := h.step ahead
  unfold State.ended
  rw [same]
  split
  · exact further
  · exact ⟨⟨h.few, h.depth, h.scopes⟩, h.tokens⟩

theorem Before.ended_of_here (h : ins.Before s s') (here : ins.Here s)
    (bare : ¬ s.cursor.current.isOperator ";" = true) : ins.Behind s.ended s'.ended := by
  have ⟨left, current, left'⟩ := h.current_of_here here
  rw [State.ended, State.ended, if_neg bare, current, if_pos ins.sign]
  exact ⟨⟨h.few, h.depth, h.scopes⟩, left.trans left'.symm⟩

theorem At.watchedEnd (level : ins.Level s s') (hp : ins.At (fun _ => True) p p' s s') :
    ins.At (fun _ => True) (p >>= watchedEnd) (p' >>= watchedEnd) s s' := by
  have ending {q : Parser Node} {s u : State} {node : Node} :
      (q >>= Parser.watchedEnd).run s = (.ok node, u) ↔
        ∃ t, q.run s = (.ok node, t) ∧ u = t.ended := by
    simp only [run_bind_eq_ok, run_watchedEnd, Prod.mk.injEq, Except.ok.injEq]
    constructor
    · rintro ⟨_, t, first, rfl, rfl⟩
      exact ⟨t, first, rfl⟩
    · rintro ⟨t, first, rfl⟩
      exact ⟨node, t, first, rfl, rfl⟩
  refine ⟨fun behind node u ran => ?_, fun before => ⟨fun here => ?_, fun node u ran => ?_⟩⟩
  · obtain ⟨t, first, rfl⟩ := ending.1 ran
    obtain ⟨t', first', there⟩ := hp.1 behind node t first
    exact ⟨_, ending.2 ⟨t', first', rfl⟩, there.ended⟩
  · exact absurd here (level.resolve_left before.not_behind).2
  · obtain ⟨t, first, rfl⟩ := ending.1 ran
    rw [marked_bind_of_ok first, marked_watchedEnd, not_or]
    rcases (hp.2 before).2 node t first with ⟨t', first', there⟩ | ⟨unmarked, past | ⟨-, bad⟩⟩
    · have second := ending.2 ⟨t', first', rfl⟩
      rcases there with behind | ⟨there, unmarked⟩
      · exact .inl ⟨_, second, .inl behind.ended⟩
      · by_cases here : ins.Here t
        · by_cases sign : t.cursor.current.isOperator ";" = true
          · -- the first run has a semicolon here as well, and with it goes past the place
            have past : ins.Past t.ended := by
              rw [State.ended, if_pos sign]
              exact here.past (advance_fewer (Token.not_eof_of_operator sign))
            exact .inr ⟨⟨unmarked, fun marked => marked.1 sign⟩, .inl past⟩
          · exact .inl ⟨_, second, .inl (there.ended_of_here here sign)⟩
        · exact .inl ⟨_, second, .inr ⟨there.ended here, unmarked, fun marked => here marked.2⟩⟩
    · refine .inr ⟨⟨unmarked, fun marked => ?_⟩, .inl (past_of_run past (run_watchedEnd node t))⟩
      exact Nat.ne_of_lt past marked.2
    · exact absurd trivial bad

theorem along_watchedTerminated (hinner : ins.Along inner) (begins : ∀ s, inner.Departs s)
    (hsub : ins.Along sub) (reads : ReadsStatement ins.settings.bound sub) :
    ins.Along (watchedTerminated ins.settings inner sub) := by
  intro s s' abreast
  refine .departing abreast watchedTerminated_departs fun level => ?_
  have accepted : ins.At (fun _ => True) (acceptOperator ";") (acceptOperator ";") s s' := by
    refine At.current ?_
    rw [level.current_eq]
    refine .ite .rfl (fun _ => ?_) fun _ => at_pure false
    exact at_advance.then fun _ _ _ _ => at_pure true
  refine accepted.then fun _ t t' abreast => .ite .rfl (fun _ => at_pure _) fun _ => ?_
  refine .departing abreast unterminated_departs.bind fun level => .watchedEnd level ?_
  exact along_unterminated hinner begins hsub reads t t' abreast

theorem along_watchedStatement (levels : Nat) :
    ins.Along (watchedStatement ins.settings levels) := by
  induction levels with
  | zero => exact fun _ _ _ => at_tooDeep ins.settings
  | succ levels ih =>
    refine along_nested _ (along_watchedTerminated (along_expression _ levels 1) ?_ ih ?_)
    · exact fun s => expression_departs levels 1
    · exact watchedStatement_derived ins.settings levels

theorem at_topLevel (hsub : ins.Along sub) (read : List Node) (rounds : Nat)
    (abreast : ins.Abreast s s') :
    ins.At (fun _ => False) (topLevel sub read rounds) (topLevel sub read rounds) s s' := by
  induction rounds generalizing read s s' with
  | zero => exact at_pure _
  | succ rounds ih =>
    refine .stop abreast semicolon_goesOn ?_
    exact (at_settled (hsub s s' abreast)).then fun next t t' there => ih (next :: read) there

theorem at_watchedProgram (levels count count' : Nat) :
    ins.At (fun _ => False) (watchedProgram ins.settings levels count)
      (watchedProgram ins.settings levels count') s s' := by
  refine (at_note (by nofun)).then fun _ t t' abreast => ?_
  refine (at_topLevel (along_watchedStatement levels) [] _ abreast).bind (fun _ _ _ _ _ => ?_) ?_
  · exact (at_note (by nofun)).then fun _ _ _ _ => at_pure _
  · exact fun _ _ _ _ _ _ _ _ _ => id

theorem Before.run_program {levels count : Nat} {node : Node} (h : ins.Before s s')
    (marked : ins.Marked (watchedProgram ins.settings levels count) s)
    (accepted : ((program ins.settings levels count).run s).1 = .ok node) (count' : Nat) :
    ((program ins.settings levels count').run s').1 = .ok node ∧
      ((program ins.settings levels count').run s').2.scopes =
        ((program ins.settings levels count).run s).2.scopes := by
  have ⟨result, left⟩ := run_watchedProgram ins.settings levels count s
  have ⟨result', left'⟩ := run_watchedProgram ins.settings levels count' s'
  have ran : (watchedProgram ins.settings levels count).run s = (.ok node, _) :=
    Prod.ext (result.trans accepted) rfl
  have ⟨_, compared⟩ := (at_watchedProgram levels count count').2 h
  rcases compared node _ ran with ⟨t', ran', behind | ⟨-, unmarked⟩⟩ | ⟨unmarked, -⟩
  · rw [ran'] at result' left'
    have scopes : _ = _ := congrArg (·.scopes) left
    have scopes' : _ = _ := congrArg (·.scopes) left'
    exact ⟨result'.symm, scopes'.symm.trans (behind.scopes.symm.trans scopes)⟩
  · exact absurd marked unmarked
  · exact absurd marked unmarked

end Insertion

namespace Parser

variable {α : Type} {p : Parser α} {s : State} {options : Options} {tokens tokens' : List Token}
variable {node : Node}

theorem BareAt.visits {here : Cursor → Prop} (made : p.BareAt here s) :
    ∃ t, Visits p s t ∧ here t.cursor := by
  induction p generalizing s with
  | done a => exact made.elim
  | failed e => exact made.elim
  | look next ih => exact ih s.view made
  | perform command next ih =>
    rcases made with ⟨-, found⟩ | later
    · exact ⟨s, ⟨[], List.nil_prefix, rfl⟩, found⟩
    · obtain ⟨t, ⟨given, before, rfl⟩, found⟩ := ih (s := command.apply s) later
      exact ⟨_, ⟨command :: given, List.cons_prefix_cons.2 ⟨rfl, before⟩, rfl⟩, found⟩

theorem BareAt.imp {here here' : Cursor → Prop}
    (h : ∀ cursor, cursor.toList = s.cursor.toList → here cursor → here' cursor)
    (made : p.BareAt here s) : p.BareAt here' s := by
  induction p generalizing s with
  | done a => exact made
  | failed e => exact made
  | look next ih => exact ih s.view h made
  | perform command next ih =>
    obtain ⟨read, reads⟩ := apply_reads command s
    refine made.imp (And.imp_right (h _ rfl)) (ih (s := command.apply s) ?_)
    exact fun cursor same => h cursor (same.trans reads.toList_eq)

theorem EndsBare.place_le {place : Nat} (bare : EndsBare options tokens place) :
    place ≤ (tokens.takeWhile (!·.isEof)).length := by
  obtain ⟨t, visits, rfl⟩ := BareAt.visits bare
  obtain ⟨-, -, le⟩ := cursor_of_visits visits
  rwa [start_toList, takeWhile_complete] at le

theorem EndsBare.unended {place : Nat} (bare : EndsBare options tokens place) :
    ∀ token ∈ tokens.take place, token.isEof = false := by
  intro token mem
  have inside : token ∈ tokens.takeWhile (!·.isEof) := by
    have split : tokens = tokens.takeWhile (!·.isEof) ++ tokens.dropWhile (!·.isEof) :=
      List.takeWhile_append_dropWhile.symm
    rw [split, List.take_append_of_le_length bare.place_le] at mem
    exact List.mem_of_mem_take mem
  simpa using List.all_eq_true.1 List.all_takeWhile token inside

theorem EndsBare.marked {ins : Insertion} {first : List Token}
    (bare : EndsBare options tokens first.length)
    (whole : Cursor.complete tokens = first ++ ins.rest) :
    ins.Marked (watchedProgram (settingsFor defaultLimit options tokens) defaultLimit
      (Cursor.complete tokens).length) (start .initial tokens) := by
  refine BareAt.imp (fun cursor same place => ?_) bare
  have length : cursor.position + cursor.remaining.length = first.length + ins.rest.length := by
    rw [← List.length_append, ← whole, ← start_toList .initial tokens, ← same]
    simp [Cursor.position, Cursor.remaining, Cursor.toList]
  omega

theorem parse_inserted {semicolon : Token} {first rest : List Token}
    (sign : semicolon.isOperator ";" = true) (unended : ∀ token ∈ first, token.isEof = false)
    (whole : Cursor.complete tokens = first ++ rest)
    (whole' : Cursor.complete tokens' = first ++ semicolon :: rest)
    (bare : EndsBare options tokens first.length)
    (accepted : (parse options tokens).result = .ok node) :
    (parse options tokens').result = .ok node ∧
      (parse options tokens').scopes = (parse options tokens).scopes := by
  let ins : Insertion := ⟨settingsFor defaultLimit options tokens, semicolon, rest, sign⟩
  have few := remaining_le_of_toList (start_toList .initial tokens) defaultLimit options
  have before : ins.Before (start .initial tokens) (start .initial tokens') := by
    refine ⟨⟨few, rfl, rfl⟩, first, unended, ?_, ?_⟩
    · rw [start_remaining, whole]
    · rw [start_remaining, whole']
  have length : (Cursor.complete tokens').length = (Cursor.complete tokens).length + 1 := by
    simp [whole, whole', Nat.add_assoc]
  have few' : (start .initial tokens').cursor.remaining.length ≤ ins.settings.bound := by
    rw [start_remaining, length]
    exact Nat.le_refl _
  -- the second run is given one round more, which makes no difference
  have rounds : (reader defaultLimit options tokens').run (start .initial tokens') =
      (program ins.settings defaultLimit (Cursor.complete tokens').length).run
        (start .initial tokens') := by
    refine program_rounds_irrelevant _ few' ?_ (Nat.le_refl _) (Nat.le_refl _)
    exact Nat.succ_le_succ (Nat.le_of_lt (Nat.lt_of_lt_of_eq (Nat.lt_succ_self _) length.symm))
  have ⟨result, scopes⟩ := before.run_program (bare.marked whole) accepted
    (Cursor.complete tokens').length
  rw [← rounds] at result scopes
  exact ⟨result, scopes⟩

theorem parse_of_ending {before : List Token} {ending ending' : Token}
    (unended : ∀ token ∈ before, token.isEof = false) (ended : ending.isEof = true)
    (ended' : ending'.isEof = true) (whole : Cursor.complete tokens = before ++ [ending])
    (whole' : Cursor.complete tokens' = before ++ [ending'])
    (accepted : (parse options tokens).result = .ok node) :
    (parse options tokens').result = .ok node ∧
      (parse options tokens').scopes = (parse options tokens).scopes := by
  obtain ⟨nodes, -, rfl, -⟩ := derives_of_accepted accepted
  have same :
      settingsFor defaultLimit options tokens' = settingsFor defaultLimit options tokens := by
    simp [settingsFor, whole, whole']
  obtain ⟨t, row, last, scopes⟩ := consecutive_of_parseFrom (Nat.le_refl _) accepted
  -- both files end at the seam, the second on a line of its own
  let seam : Seam :=
    ⟨settingsFor defaultLimit options tokens, ending, ending', [], ended, Token.fresh_of_eof ended'⟩
  have abreast : seam.Abreast (opened .initial tokens) (opened .initial tokens') := by
    refine ⟨⟨before, fun token mem => ⟨unended token mem, fun goesOn => ?_⟩, ?_, ?_⟩, ?_, rfl, rfl⟩
    · exact absurd goesOn (ne_false_of_eq_true ended')
    · exact (opened_remaining .initial tokens).trans whole
    · exact (opened_remaining .initial tokens').trans whole'
    · rw [opened_remaining]
      exact Nat.le_succ _
  obtain ⟨t', row', left, -, scopes'⟩ := Seam.consecutive_to_seam abreast row last
  have current : t'.cursor.current = ending' := (List.cons.inj left).1
  have row' : Consecutive (statement (settingsFor defaultLimit options tokens') defaultLimit)
      (opened .initial tokens') nodes t' := by
    rw [same]
    exact row'
  obtain ⟨result, kept⟩ := row'.parseFrom (current ▸ ended')
  exact ⟨result, kept.trans (scopes'.trans scopes)⟩

theorem parse_terminated_append {first rest : List Token} (line : Nat)
    (unended : ∀ token ∈ first, token.isEof = false)
    (bare : EndsBare options (first ++ rest) first.length)
    (accepted : (parse options (first ++ rest)).result = .ok node) :
    (parse options (first ++ ⟨.operator, some ";", line⟩ :: rest)).result = .ok node ∧
      (parse options (first ++ ⟨.operator, some ";", line⟩ :: rest)).scopes =
        (parse options (first ++ rest)).scopes := by
  let semicolon : Token := ⟨.operator, some ";", line⟩
  have sign : semicolon.isOperator ";" = true := rfl
  have goesOn : ∀ token ∈ first ++ [semicolon], token.isEof = false :=
    List.forall_mem_append.2 ⟨unended, by simp [semicolon, Token.isEof]⟩
  rw [List.append_cons]
  cases rest with
  | cons token rest =>
    have nonempty : token :: rest ≠ [] := List.cons_ne_nil _ _
    refine parse_inserted sign unended (Cursor.complete_append first nonempty) ?_ bare accepted
    rw [Cursor.complete_append _ nonempty, ← List.append_cons]
  | nil =>
    -- the end of the file is added, and with the semicolon perhaps on another line
    rw [List.append_nil] at bare accepted ⊢
    rw [List.append_nil]
    obtain ⟨ending, ended, whole⟩ := Cursor.complete_of_unended unended
    obtain ⟨ending', ended', whole'⟩ := Cursor.complete_of_unended goesOn
    have closed : Cursor.complete (first ++ [semicolon] ++ [ending]) =
        first ++ [semicolon] ++ [ending] := by
      simp [Cursor.complete, ended]
    have inserted := parse_inserted sign unended whole (closed.trans (by simp)) bare accepted
    obtain ⟨result, scopes⟩ := inserted
    obtain ⟨result', scopes'⟩ := parse_of_ending goesOn ended ended' closed whole' result
    exact ⟨result', scopes'.trans scopes⟩

/--
Where a statement of a program ends without a semicolon, at the top or inside other statements, one
can be put in, on any line: the tokens are still read as the same program, with the same scopes at
the end.
-/
theorem parse_terminated {place : Nat} (accepted : (parse options tokens).result = .ok node)
    (bare : EndsBare options tokens place) (line : Nat) :
    let terminated := tokens.take place ++ ⟨.operator, some ";", line⟩ :: tokens.drop place
    (parse options terminated).result = .ok node ∧
      (parse options terminated).scopes = (parse options tokens).scopes := by
  have le : place ≤ tokens.length :=
    Nat.le_trans bare.place_le (List.takeWhile_sublist _).length_le
  have split : tokens.take place ++ tokens.drop place = tokens := List.take_append_drop ..
  rw [← split] at accepted
  have here : EndsBare options (tokens.take place ++ tokens.drop place)
      (tokens.take place).length := by
    rwa [split, List.length_take_of_le le]
  have inserted := parse_terminated_append line bare.unended here accepted
  rwa [split] at inserted

def openLoop : List Token :=
  [⟨.keyword, some "WHILE", 1⟩, ⟨.keyword, some "TRUE", 1⟩, ⟨.operator, some "\x7b", 1⟩,
    ⟨.keyword, some "SET", 2⟩, ⟨.identifier, some "x", 2⟩, ⟨.operator, some "=", 2⟩,
    ⟨.integer, some "1", 2⟩, ⟨.operator, some "\x7d", 3⟩]

/-- The assignment inside the loop is given a semicolon, on a line far behind it. -/
theorem parse_terminated_inside :
    let terminated := openLoop.take 7 ++ ⟨.operator, some ";", 9⟩ :: openLoop.drop 7
    let loop : Node := .program [.whileLoop (.boolean true) [.assignment "x" (.integer 1) none]]
    (parse ⟨true, true⟩ openLoop).result = .ok loop ∧ EndsBare ⟨true, true⟩ openLoop 7 ∧
      (parse ⟨true, true⟩ terminated).result = .ok loop ∧
      (parse ⟨true, true⟩ terminated).scopes = (parse ⟨true, true⟩ openLoop).scopes := by
  intro terminated loop
  have accepted : (parse ⟨true, true⟩ openLoop).result = .ok loop := rfl
  have bare : EndsBare ⟨true, true⟩ openLoop 7 := by decide +kernel
  exact ⟨accepted, bare, parse_terminated accepted bare 9⟩

end Parser

end DeskScript
