import DeskScript.Proofs.Grammar.Conditional

/-!
Programs are those of the grammar. Main statement: `parse_sound`.
-/

namespace DeskScript.Parser

open Grammar

variable {settings : Settings} {inner sub : Parser Node} {s t : State} {site : Site}

theorem makes_of_unchanged {tokens : List Token} {node : Node}
    (recorded : Recorded site s.scopes) (reads : s.cursor.Reads tokens t.cursor)
    (derives : Phrase.Derives site tokens t.cursor.current (.simple node))
    (none : node.assignments = []) (scopes : t.scopes = s.scopes) :
    Makes site s t (.simple node) node.assignments := by
  refine ⟨tokens, reads, derives, ?_⟩
  rw [none, after_nil, scopes]
  exact recorded

theorem valued_eq_ok {bound : Nat} (hinner : ReadsExpression bound 1 inner) {f : Node → Node}
    {node : Node} (h : (do advance; let value ← inner; return f value).run s = (.ok node, t))
    (goesOn : s.cursor.current.isEof = false) (enough : s.cursor.remaining.length ≤ bound) :
    ∃ tokens value, node = f value ∧ s.cursor.Reads (s.cursor.current :: tokens) t.cursor ∧
      Term.Derives tokens t.cursor.current (.expression 1 value) ∧ t.scopes = s.scopes := by
  simp only [run_bind_eq_ok, run_advance, run_pure, Prod.mk.injEq, Except.ok.injEq] at h
  obtain ⟨_, _, ⟨-, rfl⟩, value, u, hvalue, rfl, rfl⟩ := h
  have passed := Cursor.advance_reads goesOn
  obtain ⟨tokens, reads, ⟨derives, -⟩, scopes⟩ :=
    hinner s.advance value u (passed.within enough) hvalue
  exact ⟨tokens, value, rfl, passed.trans reads, derives, scopes⟩

theorem controlStatement_derived (hinner : ReadsExpression settings.bound 1 inner)
    {control : Control} {node : Node}
    (h : (controlStatement inner control).run s = (.ok node, t))
    (word : s.cursor.current.isKeyword control.word = true)
    (enough : s.cursor.remaining.length ≤ settings.bound) (recorded : Recorded site s.scopes) :
    Makes site s t (.simple node) node.assignments := by
  simp only [controlStatement, controlValue, run_bind_eq_ok, run_current, run_advance, run_scopes,
    Prod.mk.injEq, Except.ok.injEq] at h
  obtain ⟨_, _, ⟨rfl, rfl⟩, _, _, ⟨-, rfl⟩, value, u, ⟨_, _, ⟨rfl, rfl⟩, hvalue⟩, _, _,
    ⟨rfl, rfl⟩, h⟩ := h
  have passed := Cursor.reads_keyword word
  have contained (inside : u.scopes.inside control.context = true) (same : u.scopes = s.scopes) :
      control.context ∈ site.contexts := by
    rw [Tracker.inside, List.contains_iff_mem, same, recorded.contexts] at inside
    exact inside
  split at h
  next inside =>
    obtain ⟨rfl, rfl⟩ : Node.controlStatement control value = node ∧ u = t := by simpa using h
    -- an expression on the line of the word is its value
    split at hvalue
    next starts =>
      simp only [run_bind_eq_ok, run_pure, Prod.mk.injEq, Except.ok.injEq] at hvalue
      obtain ⟨value, _, hvalue, rfl, rfl⟩ := hvalue
      obtain ⟨tokens, reads, ⟨derives, -⟩, scopes⟩ :=
        hinner s.advance value _ (passed.within enough) hvalue
      simp only [Bool.and_eq_true, beq_iff_eq] at starts
      have line := starts.1.2
      rw [reads.current] at line
      exact makes_of_unchanged recorded (passed.trans reads)
        (.controlValue word (contained inside scopes) starts.1.1 line derives) rfl scopes
    next starts =>
      obtain ⟨rfl, rfl⟩ : none = value ∧ s.advance = u := by simpa using hvalue
      exact makes_of_unchanged recorded passed
        (.control word (contained inside rfl) (by simpa using starts)) rfl rfl
  next => simp at h

theorem coordinates_eq_ok {bound : Nat} (hinner : ReadsExpression bound 1 inner) {x y : Node}
    {u : State} (hx : inner.run s = (.ok x, u)) (comma : u.cursor.current.isOperator "," = true)
    (hy : inner.run u.advance = (.ok y, t)) (enough : s.cursor.remaining.length ≤ bound) :
    ∃ first second, s.cursor.Reads (first ++ u.cursor.current :: second) t.cursor ∧
      Term.Derives first u.cursor.current (.expression 1 x) ∧
      Term.Derives second t.cursor.current (.expression 1 y) ∧ t.scopes = s.scopes := by
  obtain ⟨first, readsFirst, ⟨derives, -⟩, scopes⟩ := hinner s x u enough hx
  have passed := readsFirst.trans (Cursor.reads_operator comma)
  obtain ⟨second, readsSecond, ⟨derives', -⟩, scopes'⟩ :=
    hinner u.advance y t (passed.within enough) hy
  refine ⟨first, second, ?_, derives, derives', scopes'.trans scopes⟩
  simpa using passed.trans readsSecond

theorem moveMouse_derived (hinner : ReadsExpression settings.bound 1 inner) {node : Node}
    (h : (moveMouse inner).run s = (.ok node, t))
    (word : s.cursor.current.isKeyword "MOVE" = true)
    (enough : s.cursor.remaining.length ≤ settings.bound) (recorded : Recorded site s.scopes) :
    Makes site s t (.simple node) node.assignments := by
  simp only [moveMouse, run_bind_eq_ok, run_advance, run_expectKeyword_eq_ok, run_acceptOperator,
    run_expectOperator_eq_ok, run_pure, Prod.mk.injEq, Except.ok.injEq] at h
  obtain ⟨_, _, ⟨-, rfl⟩, _, _, ⟨mouse, rfl⟩, _, _, ⟨target, rfl⟩, _, u, ⟨rfl, hu⟩, x, v, hx, _, _,
    ⟨comma, rfl⟩, y, w, hy, _, _, hclose, rfl, rfl⟩ := h
  have passed := (Cursor.reads_keyword word).trans
    ((Cursor.reads_keyword mouse).trans
      (Cursor.reads_keyword target))
  -- an opening parenthesis is taken for the one around both coordinates
  split at hu
  next opening =>
    subst hu
    rw [opening, closeCoordinates, if_pos rfl, run_expectOperator_eq_ok] at hclose
    obtain ⟨closing, rfl⟩ := hclose
    have opened := passed.trans (Cursor.reads_operator opening)
    obtain ⟨first, second, reads, derives, derives', scopes⟩ :=
      coordinates_eq_ok hinner hx comma hy (opened.within enough)
    have closed := Cursor.reads_operator closing
    refine makes_of_unchanged recorded (opened.trans (reads.trans closed)) ?_ rfl scopes
    have derived : Phrase.Derives site _ w.advance.cursor.current _ :=
      .moveEnclosed word mouse target opening derives comma derives' closing
    simpa using derived
  next bare =>
    subst hu
    rw [closeCoordinates, if_neg bare, run_pure, Prod.mk.injEq] at hclose
    obtain ⟨-, rfl⟩ := hclose
    obtain ⟨first, second, reads, derives, derives', scopes⟩ :=
      coordinates_eq_ok hinner hx comma hy (passed.within enough)
    exact makes_of_unchanged recorded (passed.trans reads)
      (.move word mouse target derives comma derives') rfl scopes

theorem keyName?_eq_some {token : Token} {key : String} (h : keyName? token = some key) :
    Key token key ∧ token.isEof = false := by
  unfold keyName? at h
  split at h
  case h_1 kind =>
    split at h
    next category =>
      obtain rfl := Option.some.inj h
      exact ⟨.named category, Token.not_eof_of_kind kind (by decide)⟩
    next => simp at h
  case h_2 kind | h_3 kind =>
    split at h
    next single =>
      obtain rfl := Option.some.inj h
      exact ⟨.single (by simp [kind]) single, Token.not_eof_of_kind kind (by decide)⟩
    next => simp at h
  case h_4 kind =>
    obtain rfl := Option.some.inj h
    exact ⟨.quoted kind, Token.not_eof_of_kind kind (by decide)⟩
  case h_5 => simp at h

theorem not_eof_of_category {token : Token} {category : Keyword.Category}
    (h : token.category? = some category) : token.isEof = false := by
  rw [Token.isEof_eq_false]
  intro ended
  simp [Token.category?, ended] at h

theorem inputOperation_derived {node : Node}
    (h : (inputOperation (Text.upper s.cursor.current.text)).run s = (.ok node, t))
    (kind : s.cursor.current.kind = .keyword)
    (word : Text.upper s.cursor.current.text ∈ ["HOLD", "RELEASE", "PRESS"])
    (recorded : Recorded site s.scopes) : Makes site s t (.simple node) node.assignments := by
  have passed := Cursor.advance_reads (Token.not_eof_of_kind kind (by decide))
  rw [inputOperation, run_bind_of_ok (run_advance s), run_ifKeyword] at h
  split at h
  next sort =>
    have passed' := passed.trans (Cursor.reads_keyword sort)
    rw [run_bind_of_ok (run_current _)] at h
    split at h
    next key hkey =>
      obtain ⟨named, goesOn⟩ := keyName?_eq_some hkey
      simp only [run_bind_of_ok (run_advance _), run_pure, Prod.mk.injEq, Except.ok.injEq] at h
      obtain ⟨rfl, rfl⟩ := h
      exact makes_of_unchanged recorded (passed'.trans (Cursor.advance_reads goesOn))
        (.key kind word sort named) rfl rfl
    next => simp at h
  next =>
    rw [run_ifKeyword] at h
    split at h
    next sort =>
      have passed' := passed.trans (Cursor.reads_keyword sort)
      rw [run_bind_of_ok (run_current _)] at h
      split at h
      next category =>
        simp only [run_bind_of_ok (run_advance _), run_pure, Prod.mk.injEq, Except.ok.injEq] at h
        obtain ⟨rfl, rfl⟩ := h
        exact makes_of_unchanged recorded
          (passed'.trans (Cursor.advance_reads (not_eof_of_category category)))
          (.button kind word sort category) rfl rfl
      next => simp at h
    next => simp at h

theorem call_assignments {tokens : List Token} {follow : Token} {node : Node}
    (h : Term.Derives tokens follow (.call node)) : node.assignments = [] := by
  cases h <;> rfl

theorem identifierStatement_derived (hinner : ReadsExpression settings.bound 1 inner) {node : Node}
    (h : (identifierStatement settings inner).run s = (.ok node, t))
    (identifier : s.cursor.current.kind = .identifier)
    (enough : s.cursor.remaining.length ≤ settings.bound) (recorded : Recorded site s.scopes) :
    Makes site s t (.simple node) node.assignments := by
  have goesOn := Token.not_eof_of_kind identifier (by decide)
  have passed := Cursor.advance_reads goesOn
  rw [identifierStatement, run_bind_of_ok (run_current s), run_bind_of_ok (run_next? s),
    Cursor.next?_eq_some goesOn, Option.any_some, Option.any_some] at h
  split at h
  next step =>
    simp only [run_bind_eq_ok, run_advance, run_current, run_pure, Prod.mk.injEq,
      Except.ok.injEq] at h
    obtain ⟨_, _, ⟨-, rfl⟩, _, u, hrequire, _, _, ⟨rfl, rfl⟩, _, _, ⟨-, rfl⟩, rfl, rfl⟩ := h
    obtain rfl := requireVariable_eq_ok hrequire
    exact makes_of_unchanged recorded
      (passed.trans (Cursor.advance_reads (Token.not_eof_of_step step)))
      (.updateAfter identifier step) rfl rfl
  next =>
    split at h
    next opening =>
      rw [run_bind_of_ok (run_advance s)] at h
      obtain ⟨tokens, reads, derives, scopes⟩ :=
        call_sound hinner identifier opening (passed.within enough) h
      exact makes_of_unchanged recorded (passed.trans reads) (.call derives)
        (call_assignments derives) scopes
    next => simp at h

theorem keyword_of_word {token : Token} {word : String} (kind : token.kind = .keyword)
    (h : Text.upper token.text = word) (upper : Text.upper word = word) :
    token.isKeyword word = true :=
  Token.isKeyword_iff.2 ⟨kind, h.trans upper.symm⟩

theorem word_of_ofWord? {word : String} {control : Control}
    (h : Control.ofWord? word = some control) : word = control.word := by
  have same := List.find?_some h
  exact (beq_iff_eq.1 same).symm

theorem upper_control (control : Control) : Text.upper control.word = control.word := by
  cases control <;> decide

theorem wordStatement_derived (hinner : ReadsExpression settings.bound 1 inner)
    (hsub : ReadsStatement settings.bound sub) (balanced : ∀ s, Balanced (sub.commands s))
    {node : Node} {token : Token}
    (h : (wordStatement settings inner sub token (Text.upper s.cursor.current.text)).run s =
      (.ok node, t))
    (kind : s.cursor.current.kind = .keyword)
    (enough : s.cursor.remaining.length ≤ settings.bound) (recorded : Recorded site s.scopes) :
    Makes site s t (.simple node) node.assignments := by
  have goesOn := Token.not_eof_of_kind kind (by decide)
  unfold wordStatement at h
  split at h
  next control hcontrol =>
    exact controlStatement_derived hinner h
      (keyword_of_word kind (word_of_ofWord? hcontrol) (upper_control control)) enough recorded
  next =>
    split at h
    case h_1 word =>
      exact assignment_derived hinner h (keyword_of_word kind word (by decide)) enough recorded
    case h_2 word =>
      exact functionDefinition_derived hsub balanced h (keyword_of_word kind word (by decide))
        enough recorded
    case h_3 word | h_4 word =>
      obtain ⟨tokens, value, rfl, reads, derives, scopes⟩ := valued_eq_ok hinner h goesOn enough
      exact makes_of_unchanged recorded reads (.print kind (by simp [word]) derives) rfl scopes
    case h_5 word =>
      obtain ⟨tokens, value, rfl, reads, derives, scopes⟩ := valued_eq_ok hinner h goesOn enough
      exact makes_of_unchanged recorded reads
        (.wait (keyword_of_word kind word (by decide)) derives) rfl scopes
    case h_6 word =>
      exact moveMouse_derived hinner h (keyword_of_word kind word (by decide)) enough recorded
    case h_7 word | h_8 word | h_9 word =>
      exact inputOperation_derived h kind (by simp [word]) recorded
    case h_10 word =>
      exact ifStatement_derived hinner hsub h (keyword_of_word kind word (by decide)) enough
        recorded
    case h_11 word =>
      exact whileLoop_derived hinner hsub h (keyword_of_word kind word (by decide)) enough recorded
    case h_12 word =>
      exact repeatLoop_derived hinner hsub h (keyword_of_word kind word (by decide)) enough recorded
    case h_13 word =>
      simp only [run_bind_of_ok (run_advance _), run_pure, Prod.mk.injEq, Except.ok.injEq] at h
      obtain ⟨rfl, rfl⟩ := h
      exact makes_of_unchanged recorded (Cursor.advance_reads goesOn)
        (.pass (keyword_of_word kind word (by decide))) rfl rfl
    case h_14 => simp at h

theorem keywordStatement_derived (hinner : ReadsExpression settings.bound 1 inner)
    (hsub : ReadsStatement settings.bound sub) (balanced : ∀ s, Balanced (sub.commands s))
    {node : Node} (h : (keywordStatement settings inner sub).run s = (.ok node, t))
    (kind : s.cursor.current.kind = .keyword)
    (enough : s.cursor.remaining.length ≤ settings.bound) (recorded : Recorded site s.scopes) :
    Makes site s t (.simple node) node.assignments := by
  rw [keywordStatement, run_bind_of_ok (run_current s)] at h
  dsimp only at h
  rw [run_bind_of_ok (run_note _ s)] at h
  -- the entry in the journal changes neither the place nor the scopes
  change Makes site ⟨s.cursor, s.depth, s.scopes,
    .statement (Text.upper s.cursor.current.text) s.cursor.current.line :: s.journal⟩ t _ _
  exact wordStatement_derived hinner hsub balanced h kind enough recorded

theorem unterminated_derived (hinner : ReadsExpression settings.bound 1 inner)
    (hsub : ReadsStatement settings.bound sub) (balanced : ∀ s, Balanced (sub.commands s))
    {node : Node} (h : (unterminated settings inner sub).run s = (.ok node, t))
    (enough : s.cursor.remaining.length ≤ settings.bound) (recorded : Recorded site s.scopes) :
    Makes site s t (.simple node) node.assignments := by
  rw [unterminated, run_bind_of_ok (run_current s)] at h
  split at h
  next kind => exact keywordStatement_derived hinner hsub balanced h kind enough recorded
  next kind => exact identifierStatement_derived hinner h kind enough recorded
  next =>
    split at h
    next step =>
      obtain ⟨name, reads, identifier, rfl, scopes⟩ := updateBefore_eq_ok step h
      exact makes_of_unchanged recorded reads (.updateBefore step identifier) rfl scopes
    next => simp at h
  next => simp at h

theorem terminated_derived (hinner : ReadsExpression settings.bound 1 inner)
    (hsub : ReadsStatement settings.bound sub) (balanced : ∀ s, Balanced (sub.commands s)) :
    ReadsStatement settings.bound (terminated settings inner sub) := by
  intro site s node t enough recorded h
  rw [terminated, run_ifOperator] at h
  split at h
  next semicolon =>
    obtain ⟨rfl, rfl⟩ : Node.emptyStatement = node ∧ s.advance = t := by simpa using h
    exact ⟨_, Cursor.reads_operator semicolon, .empty semicolon, by
      simpa [Node.assignments] using recorded⟩
  next =>
    simp only [run_bind_eq_ok, run_acceptOperator, run_pure, Prod.mk.injEq, Except.ok.injEq] at h
    obtain ⟨_, u, hnode, _, _, ⟨-, rfl⟩, rfl, rfl⟩ := h
    obtain ⟨tokens, reads, derives, recorded'⟩ :=
      unterminated_derived hinner hsub balanced hnode enough recorded
    split
    next semicolon =>
      exact ⟨_, reads.trans (Cursor.reads_operator semicolon),
        .ended derives semicolon, recorded'⟩
    next semicolon => exact ⟨_, reads, .unended derives (by simpa using semicolon), recorded'⟩

theorem statement_derived (settings : Settings) (levels : Nat) :
    ReadsStatement settings.bound (statement settings levels) := by
  induction levels with
  | zero =>
    intro site s node t _ _ h
    simp [statement] at h
  | succ levels ih =>
    intro site s node t enough recorded h
    obtain ⟨u, inside, rfl⟩ := nested_eq_ok h
    exact terminated_derived (expression_sound settings (by decide)) ih
      (statement_balanced settings levels) site (Command.deepen.apply s) node u enough recorded
      inside

theorem topLevel_derived {bound : Nat} (hsub : ReadsStatement bound sub) {read all : List Node}
    {rounds : Nat} (h : (topLevel sub read rounds).run s = (.ok all, t))
    (enough : s.cursor.remaining.length ≤ rounds) (le : rounds ≤ bound)
    (recorded : Recorded site s.scopes) :
    ∃ tokens nodes, all = read.reverse ++ nodes ∧ s.cursor.Reads tokens t.cursor ∧
      Phrase.Derives site tokens t.cursor.current (.statements nodes) ∧
      t.cursor.current.isEof = true := by
  induction rounds generalizing s read site with
  | zero => exact absurd enough (by simp [Cursor.remaining])
  | succ rounds ih =>
    rw [topLevel, run_bind_of_ok (run_current s)] at h
    split at h
    next ended =>
      obtain ⟨rfl, rfl⟩ : read.reverse = all ∧ s = t := by simpa using h
      exact ⟨[], [], by simp, .refl _, .nil, ended⟩
    next =>
      simp only [run_bind_eq_ok, run_settled_eq_ok] at h
      obtain ⟨node, u, hnode, h⟩ := h
      obtain ⟨first, reads, derives, recorded'⟩ :=
        hsub site s node u (Nat.le_trans enough le) recorded hnode
      have shorter := reads.length
      have progress := List.length_pos_iff.2 (statement_ne_nil derives)
      -- what follows the statement is the first token of the others, or the end of the file
      obtain ⟨rest, nodes, rfl, reads', derives', ended⟩ := ih h (by omega) (by omega) recorded'
      rw [reads'.current] at derives
      exact ⟨first ++ rest, node :: nodes, by simp, reads.trans reads', .cons derives derives',
        ended⟩

theorem takeWhile_complete (tokens : List Token) :
    (Cursor.complete tokens).takeWhile (!·.isEof) = tokens.takeWhile (!·.isEof) := by
  unfold Cursor.complete
  split
  next last hlast =>
    split
    · rfl
    · rw [List.takeWhile_append]
      split
      next all =>
        rw [(List.takeWhile_prefix _).eq_of_length all]
        exact List.append_nil tokens
      next => rfl
  next empty =>
    rw [List.getLast?_eq_none_iff.1 empty]
    rfl

theorem reads_to_end {all tokens : List Token} (ending : ∃ token ∈ all, token.isEof = true)
    {d : Cursor} (reads : (Cursor.ofList all ending).Reads tokens d)
    (ended : d.current.isEof = true) :
    tokens = all.takeWhile (!·.isEof) ∧ all.find? (·.isEof) = some d.current ∧
      d.position = tokens.length := by
  have split := reads.remaining
  rw [Cursor.ofList_remaining] at split
  have before : ∀ token ∈ tokens, (!token.isEof) = true := by
    simpa using fun token mem => reads.not_eof mem
  have nothing : tokens.find? (·.isEof) = none := by
    simpa using fun token mem => reads.not_eof mem
  refine ⟨?_, ?_, ?_⟩
  · rw [split, List.takeWhile_append_of_pos before]
    simp [Cursor.remaining, ended]
  · rw [split, List.find?_append, nothing]
    simp [Cursor.remaining, ended]
  · simp [Cursor.position, reads.passed, Cursor.ofList_passed]

theorem derives_of_accepted {options : Options} {tokens : List Token} {ast : Node}
    (accepted : (parse options tokens).result = .ok ast) :
    ∃ nodes ending, ast = .program nodes ∧
      Phrase.Derives .start (tokens.takeWhile (!·.isEof)) ending (.statements nodes) := by
  have ran : (reader defaultLimit options tokens).run (start .initial tokens) = (.ok ast, _) :=
    Prod.ext accepted rfl
  simp only [reader, program, run_bind_eq_ok, run_note, run_pure, Prod.mk.injEq,
    Except.ok.injEq] at ran
  obtain ⟨_, _, ⟨-, rfl⟩, nodes, t, ran, _, _, ⟨-, rfl⟩, rfl, -⟩ := ran
  have enough : (Cursor.ofTokens tokens).remaining.length ≤
      (Cursor.complete tokens).length + 1 := by
    rw [Cursor.ofTokens, Cursor.ofList_remaining]
    exact Nat.le_succ _
  obtain ⟨read, nodes, rfl, reads, derives, ended⟩ :=
    topLevel_derived (statement_derived (settingsFor defaultLimit options tokens) defaultLimit)
      ran enough (Nat.le_refl _) Recorded.initial
  obtain ⟨rfl, -, -⟩ := reads_to_end _ reads ended
  rw [takeWhile_complete] at derives
  exact ⟨nodes, t.cursor.current, rfl, derives⟩

end DeskScript.Parser
