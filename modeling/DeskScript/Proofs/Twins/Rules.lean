import DeskScript.Proofs.Parser.Termination
import DeskScript.Proofs.Twins.Basic

/-!
Every rule of the language ends alike on twins, one after the other as the grammar has them. Two
rules look at the token after the current one: one does so only if the current token is `ELSE`, and
the other is used only for an identifier, so neither sees past the end of the file. Main statement:
`Twins.matched_reader`.
-/

namespace DeskScript.Twins

open DeskScript.Parser

variable {twins : Twins} {settings : Settings} {inner sub : Parser Node}
variable {s s' : State} {line line' : Nat}

theorem alike_literal (kind : Token.Kind) (text : String) (lines : twins.line line line') :
    twins.Alike Eq (literal kind text line) (literal kind text line') := by
  unfold literal
  split
  all_goals
    split
    · exact alike_done rfl
    · exact alike_fail (.same _) lines

theorem alike_requireVariable (name : String) :
    twins.Alike Eq (requireVariable settings name) (requireVariable settings name) := by
  refine alike_scopes.then fun tracker => .ite .rfl ?_ (alike_done rfl)
  exact alike_previousLine.bind fun _ _ lines => alike_fail (.same _) lines

theorem alike_checkCall (name : String) (given : Nat) (lines : twins.line line line') :
    twins.Alike Eq (checkCall settings name given line) (checkCall settings name given line') := by
  refine alike_scopes.then fun tracker => .ite .rfl (alike_fail (.same _) lines) ?_
  refine .ite .rfl ?_ (alike_done rfl)
  split
  · exact .ite .rfl (alike_done rfl) (alike_fail (.same _) lines)
  · exact alike_done rfl

theorem alike_arguments (hinner : twins.Alike Eq inner inner) :
    twins.Alike Eq (arguments settings inner) (arguments settings inner) :=
  alike_current.bind fun _ _ alike =>
    .ite (by rw [alike.isOperator_eq]) (alike_done rfl) (alike_commaList hinner [] _)

theorem alike_call (hinner : twins.Alike Eq inner inner) (name : String) :
    twins.Alike Eq (call settings inner name) (call settings inner name) := by
  refine alike_previousLine.bind fun _ _ lines => alike_advance.then fun _ => ?_
  refine (alike_arguments hinner).then fun _ => (alike_expectOperator _ _).then fun _ => ?_
  exact (alike_checkCall name _ lines).then fun _ => alike_done rfl

theorem at_updateBefore (abreast : twins.Abreast s s') (step : s.cursor.current.isStep = true) :
    twins.At Eq (updateBefore settings) (updateBefore settings) s s' := by
  refine At.current ?_
  rw [abreast.current.step_text_eq step]
  refine (alike_advance.then fun _ => (alike_expectIdentifier _).then fun name => ?_) s s' abreast
  exact (alike_requireVariable name).then fun _ => alike_done rfl

theorem alike_updateAfter (name : String) (lines : twins.line line line') :
    twins.Alike Eq (updateAfter name line) (updateAfter name line') := by
  refine alike_current.bind fun t t' alike => ?_
  rw [← alike.isStep_eq, ← Likeness.line_beq_eq alike.line lines]
  split
  next step =>
    rw [alike.step_text_eq (Bool.and_eq_true_iff.1 step).1]
    exact alike_advance.then fun _ => alike_done rfl
  next => exact alike_done rfl

theorem at_named (hinner : twins.Alike Eq inner inner) (abreast : twins.Abreast s s')
    (identifier : s.cursor.current.kind = .identifier) :
    twins.At Eq (named settings inner) (named settings inner) s s' := by
  have alike := abreast.current
  refine At.current ?_
  rw [alike.text_eq (by simp [identifier])]
  refine (alike_advance.then fun _ => alike_current.bind fun t t' next => ?_) s s' abreast
  refine .ite (by rw [next.isOperator_eq]) (alike_call hinner _) ?_
  exact (alike_requireVariable _).then fun _ => alike_updateAfter _ alike.line

theorem alike_enclosed (hinner : twins.Alike Eq inner inner) :
    twins.Alike Eq (enclosed inner) (enclosed inner) :=
  alike_advance.then fun _ => hinner.then fun _ =>
    (alike_expectOperator _ _).then fun _ => alike_done rfl

theorem alike_negated : twins.Alike Eq negated negated := by
  refine alike_advance.then fun _ => alike_current.bind fun t t' alike => ?_
  rw [← alike.kind]
  split
  next numeric =>
    have plain : t.kind ≠ .keyword := by
      intro keyword
      simp [keyword, Token.Kind.isNumeric] at numeric
    rw [alike.text_eq plain]
    exact alike_advance.then fun _ => alike_literal _ _ alike.line
  next => exact alike_unexpected _

theorem alike_primary (hinner : twins.Alike Eq inner inner) :
    twins.Alike Eq (primary settings inner) (primary settings inner) := by
  intro s s' abreast
  have alike := abreast.current
  refine At.current ?_
  rw [← alike.kind]
  cases kind : s.cursor.current.kind with
  | integer | float | time =>
    rw [alike.text_eq (by simp [kind])]
    exact (alike_advance.then fun _ => alike_literal _ _ alike.line) s s' abreast
  | string =>
    rw [alike.text_eq (by simp [kind])]
    exact (alike_advance.then fun _ => alike_done rfl) s s' abreast
  | keyword =>
    refine Alike.ite (by rw [alike.isKeyword_eq]) (alike_advance.then fun _ => alike_done rfl)
      (.ite (by rw [alike.isKeyword_eq]) (alike_advance.then fun _ => alike_done rfl)
        (alike_unexpected _)) s s' abreast
  | identifier => exact at_named hinner abreast kind
  | operator =>
    dsimp only
    rw [← alike.isOperator_eq, ← alike.isOperator_eq, ← alike.isStep_eq]
    split
    · exact alike_enclosed hinner s s' abreast
    · split
      · exact alike_negated s s' abreast
      · split
        · exact at_updateBefore abreast ‹_›
        · exact alike_unexpected _ s s' abreast
  | eof => exact alike_unexpected _ s s' abreast

theorem alike_operators {operand : Nat → Parser Node}
    (h : ∀ least, twins.Alike Eq (operand least) (operand least)) (least rounds : Nat)
    (left : Node) :
    twins.Alike Eq (operators operand least rounds left) (operators operand least rounds left) := by
  induction rounds generalizing left with
  | zero => exact alike_done rfl
  | succ rounds ih =>
    refine alike_current.bind fun t t' alike => ?_
    rw [← alike.precedence?_eq, ← alike.operatorName_eq]
    split
    · refine .ite .rfl (alike_done rfl) ?_
      exact alike_advance.then fun _ => (h _).then fun _ => ih _
    · exact alike_done rfl

theorem alike_expression (settings : Settings) (levels least : Nat) :
    twins.Alike Eq (expression settings levels least) (expression settings levels least) := by
  induction levels generalizing least with
  | zero => exact alike_tooDeep settings
  | succ levels ih =>
    refine alike_nested settings ((alike_primary (ih 1)).then fun left => ?_)
    exact alike_operators ih least _ left

theorem alike_statementsUntil {closes : Token → Bool}
    (same : ∀ {t t'}, twins.Lexemes t t' → closes t = closes t') (missing : Expectation)
    (hsub : twins.Alike Eq sub sub) (read : List Node) (rounds : Nat) :
    twins.Alike Eq (statementsUntil closes missing sub read rounds)
      (statementsUntil closes missing sub read rounds) := by
  induction rounds generalizing read with
  | zero => exact alike_done rfl
  | succ rounds ih =>
    refine alike_current.bind fun t t' alike =>
      .ite (by rw [same alike.toLexemes]) (alike_done rfl) ?_
    exact .ite (by rw [alike.isEof_eq]) (alike_unexpected _) (hsub.then fun _ => ih _)

theorem alike_body (hsub : twins.Alike Eq sub sub) (construct : Construct)
    (closers : List String) :
    twins.Alike Eq (body settings sub construct closers) (body settings sub construct closers) := by
  refine (alike_acceptOperator _).then fun _ => .ite .rfl ?_ ?_
  · have same {t t' : Token} (alike : twins.Lexemes t t') :
        t.isOperator "\x7d" = t'.isOperator "\x7d" := alike.isOperator_eq _
    refine (alike_statementsUntil same _ hsub [] _).then fun _ => ?_
    exact alike_advance.then fun _ => alike_done rfl
  · have same {t t' : Token} (alike : twins.Lexemes t t') :
        closers.any t.isKeyword = closers.any t'.isKeyword := by
      rw [funext alike.isKeyword_eq]
    exact (alike_statementsUntil same _ hsub [] _).then fun _ => alike_done rfl

theorem alike_closeBody (body : Body) : twins.Alike Eq (closeBody body) (closeBody body) :=
  .ite .rfl (alike_done rfl) (alike_advance.then fun _ => alike_done rfl)

theorem alike_typeHint : twins.Alike Eq typeHint typeHint := by
  refine alike_current.bind fun t t' alike => ?_
  refine .ite (by rw [alike.kind]) (alike_advance.then fun _ => ?_) (alike_unexpected _)
  rw [alike.upper_eq]
  exact .ite .rfl (alike_done rfl) (alike_fail (.invalidType alike.text) alike.line)

theorem alike_annotation? : twins.Alike Eq annotation? annotation? :=
  (alike_acceptOperator _).then fun _ =>
    .ite .rfl (alike_typeHint.then fun _ => alike_done rfl) (alike_done rfl)

theorem alike_lateAnnotation? (target : String) (early : Option String) :
    twins.Alike Eq (lateAnnotation? target early) (lateAnnotation? target early) := by
  refine (alike_acceptOperator _).then fun _ => .ite .rfl ?_ (alike_done rfl)
  refine .ite .rfl ?_ (alike_typeHint.then fun _ => alike_done rfl)
  exact alike_previousLine.bind fun _ _ lines => alike_fail (.same _) lines

theorem alike_declare (target : String) (value : Node) (type : Option String)
    (lines : twins.line line line') :
    twins.Alike Eq (declare target value type line) (declare target value type line') := by
  unfold declare
  split
  · exact alike_fail (.same _) lines
  · exact (alike_note _ _).then fun _ => (alike_change _).then fun _ => alike_done rfl

theorem alike_assignment (hinner : twins.Alike Eq inner inner) :
    twins.Alike Eq (assignment inner) (assignment inner) := by
  refine alike_current.bind fun t t' alike => alike_advance.then fun _ => ?_
  refine (alike_expectIdentifier _).then fun target => alike_annotation?.then fun early => ?_
  refine (alike_expectOperator _ _).then fun _ => hinner.then fun value => ?_
  refine (alike_lateAnnotation? target early).then fun _ => alike_scopes.then fun _ => ?_
  exact alike_declare target value _ alike.line

theorem alike_parameters (function : String) (seen : List String) (rounds : Nat) :
    twins.Alike Eq (parameters function seen rounds) (parameters function seen rounds) := by
  induction rounds generalizing seen with
  | zero => exact alike_done rfl
  | succ rounds ih =>
    refine (alike_expectIdentifier _).then fun parameter => .ite .rfl ?_ ?_
    · exact alike_previousLine.bind fun _ _ lines => alike_fail (.same _) lines
    · exact (alike_acceptOperator _).then fun _ => .ite .rfl (ih _) (alike_done rfl)

theorem alike_parameterList (function : String) :
    twins.Alike Eq (parameterList settings function) (parameterList settings function) :=
  alike_current.bind fun _ _ alike =>
    .ite (by rw [alike.isOperator_eq]) (alike_done rfl) (alike_parameters function [] _)

theorem alike_functionDefinition (hsub : twins.Alike Eq sub sub) :
    twins.Alike Eq (functionDefinition settings sub) (functionDefinition settings sub) := by
  refine alike_advance.then fun _ => (alike_expectIdentifier _).then fun name => ?_
  refine (alike_expectOperator _ _).then fun _ => (alike_parameterList name).then fun names => ?_
  refine (alike_expectOperator _ _).then fun _ => (alike_note _ _).then fun _ => ?_
  refine (alike_change _).then fun _ => ?_
  refine (alike_between (advance_not_mem_enterFunction names) (by simp [leaveFunction])
    (alike_body hsub _ _)).then fun body => ?_
  exact (alike_closeBody body).then fun _ => alike_done rfl

theorem alike_loopBody (hsub : twins.Alike Eq sub sub) (construct : Construct) :
    twins.Alike Eq (loopBody settings sub construct) (loopBody settings sub construct) :=
  (alike_between (by simp) (by simp) (alike_body hsub _ _)).then fun body => alike_closeBody body

theorem alike_whileLoop (hinner : twins.Alike Eq inner inner) (hsub : twins.Alike Eq sub sub) :
    twins.Alike Eq (whileLoop settings inner sub) (whileLoop settings inner sub) :=
  alike_advance.then fun _ => hinner.then fun _ =>
    (alike_loopBody hsub _).then fun _ => alike_done rfl

theorem alike_repeatLoop (hinner : twins.Alike Eq inner inner) (hsub : twins.Alike Eq sub sub) :
    twins.Alike Eq (repeatLoop settings inner sub) (repeatLoop settings inner sub) :=
  alike_advance.then fun _ => hinner.then fun _ => (alike_expectKeyword _ _).then fun _ =>
    (alike_loopBody hsub _).then fun _ => alike_done rfl

theorem elseIf_eq (abreast : twins.Abreast s s') :
    (s.cursor.current.isKeyword "ELSE" && s.cursor.next?.any fun next =>
        next.isKeyword "IF" && next.line == s.cursor.current.line) =
      (s'.cursor.current.isKeyword "ELSE" && s'.cursor.next?.any fun next =>
        next.isKeyword "IF" && next.line == s'.cursor.current.line) := by
  rw [← abreast.current.isKeyword_eq]
  cases word : s.cursor.current.isKeyword "ELSE" with
  | false => rfl
  | true =>
    obtain ⟨u, u', next, next', alike, lines⟩ := abreast.next (Token.not_eof_of_keyword word)
    simp only [next, next', Option.any_some, alike.isKeyword_eq, Bool.beq_eq_decide_eq, lines]

theorem alike_acceptElseIf : twins.Alike Eq acceptElseIf acceptElseIf := by
  refine (alike_acceptKeyword "ELSEIF").then fun _ => .ite .rfl (alike_done rfl) ?_
  intro s s' abreast
  refine At.current (At.next? ?_)
  refine Alike.ite (by rw [elseIf_eq abreast]) ?_ (alike_done rfl) s s' abreast
  exact alike_advance.then fun _ => alike_advance.then fun _ => alike_done rfl

theorem alike_branch (hinner : twins.Alike Eq inner inner) (hsub : twins.Alike Eq sub sub) :
    twins.Alike Eq (branch settings inner sub) (branch settings inner sub) :=
  hinner.then fun _ => (alike_acceptKeyword _).then fun _ =>
    (alike_body hsub _ _).then fun _ => alike_done rfl

theorem alike_elseIfs (hinner : twins.Alike Eq inner inner) (hsub : twins.Alike Eq sub sub)
    (read : List (Node × Body)) (rounds : Nat) :
    twins.Alike Eq (elseIfs settings inner sub read rounds)
      (elseIfs settings inner sub read rounds) := by
  induction rounds generalizing read with
  | zero => exact alike_done rfl
  | succ rounds ih =>
    refine alike_acceptElseIf.then fun _ => .ite .rfl ?_ (alike_done rfl)
    exact (alike_branch hinner hsub).then fun _ => ih _

theorem alike_elseBranch? (hsub : twins.Alike Eq sub sub) :
    twins.Alike Eq (elseBranch? settings sub) (elseBranch? settings sub) :=
  (alike_acceptKeyword _).then fun _ =>
    .ite .rfl ((alike_body hsub _ _).then fun _ => alike_done rfl) (alike_done rfl)

theorem alike_closeConditional (bodies : List Body) :
    twins.Alike Eq (closeConditional bodies) (closeConditional bodies) :=
  .ite .rfl (alike_done rfl) (alike_expectKeyword _ _)

theorem alike_ifStatement (hinner : twins.Alike Eq inner inner) (hsub : twins.Alike Eq sub sub) :
    twins.Alike Eq (ifStatement settings inner sub) (ifStatement settings inner sub) := by
  refine alike_advance.then fun _ => (alike_branch hinner hsub).then fun ⟨condition, first⟩ => ?_
  refine (alike_elseIfs hinner hsub [] _).then fun others => ?_
  refine (alike_elseBranch? hsub).then fun last => ?_
  exact (alike_closeConditional _).then fun _ => alike_done rfl

theorem alike_controlValue (hinner : twins.Alike Eq inner inner) (control : Control)
    (lines : twins.line line line') :
    twins.Alike Eq (controlValue inner control line) (controlValue inner control line') := by
  refine alike_current.bind fun t t' alike => ?_
  rw [Likeness.line_beq_eq alike.line lines, alike.startsExpression_eq]
  exact .ite .rfl (hinner.then fun _ => alike_done rfl) (alike_done rfl)

theorem alike_controlStatement (hinner : twins.Alike Eq inner inner) (control : Control) :
    twins.Alike Eq (controlStatement inner control) (controlStatement inner control) := by
  refine alike_current.bind fun t t' alike => alike_advance.then fun _ => ?_
  refine (alike_controlValue hinner control alike.line).then fun value => ?_
  refine alike_scopes.then fun tracker => .ite .rfl (alike_done rfl) ?_
  exact alike_fail (.same _) alike.line

theorem alike_closeCoordinates (enclosed : Bool) :
    twins.Alike Eq (closeCoordinates enclosed) (closeCoordinates enclosed) :=
  .ite .rfl (alike_expectOperator _ _) (alike_done rfl)

theorem alike_moveMouse (hinner : twins.Alike Eq inner inner) :
    twins.Alike Eq (moveMouse inner) (moveMouse inner) := by
  refine alike_advance.then fun _ => (alike_expectKeyword _ _).then fun _ => ?_
  refine (alike_expectKeyword _ _).then fun _ => (alike_acceptOperator _).then fun enclosed => ?_
  refine hinner.then fun _ => (alike_expectOperator _ _).then fun _ => hinner.then fun _ => ?_
  exact (alike_closeCoordinates enclosed).then fun _ => alike_done rfl

theorem alike_inputOperation (operation : String) :
    twins.Alike Eq (inputOperation operation) (inputOperation operation) := by
  refine alike_advance.then fun _ => (alike_acceptKeyword _).then fun _ => .ite .rfl ?_ ?_
  · refine alike_current.bind fun t t' alike => ?_
    rw [← alike.keyName?_eq]
    split
    · exact alike_advance.then fun _ => alike_done rfl
    · exact alike_unexpected _
  · refine (alike_acceptKeyword _).then fun _ => .ite .rfl ?_ (alike_unexpected _)
    refine alike_current.bind fun t t' alike => ?_
    rw [← alike.category?_eq, ← alike.upper_eq]
    exact .ite .rfl (alike_advance.then fun _ => alike_done rfl) (alike_unexpected _)

theorem at_identifierStatement (hinner : twins.Alike Eq inner inner)
    (abreast : twins.Abreast s s') (identifier : s.cursor.current.kind = .identifier) :
    twins.At Eq (identifierStatement settings inner) (identifierStatement settings inner) s s' := by
  have alike := abreast.current
  have goesOn : s.cursor.current.isEof = false := Token.not_eof_of_kind identifier (by decide)
  obtain ⟨u, u', next, next', ahead, -⟩ := abreast.next goesOn
  refine At.current (At.next? ?_)
  rw [next, next', Option.any_some, Option.any_some, Option.any_some, Option.any_some,
    alike.text_eq (by simp [identifier]), ← ahead.isStep_eq, ← ahead.isOperator_eq]
  split
  next step =>
    refine (alike_advance s s' abreast).bind fun _ _ t t' moved _ _ abreast => ?_
    obtain rfl : s.advance = t := (Prod.mk.inj moved).2
    refine (alike_requireVariable _ _ t' abreast).bind fun _ _ v v' checked _ _ abreast => ?_
    -- the check leaves the place as it is, so the current token is the one that was foreseen
    have kept : v = s.advance := by
      simpa only [checked] using requireVariable_state settings s'.cursor.current.text s.advance
    have place : v.cursor.current = u := by
      rw [kept]
      exact Option.some.inj ((Cursor.next?_eq_some goesOn).symm.trans next)
    refine At.current ?_
    rw [abreast.current.step_text_eq (place ▸ step)]
    exact (alike_advance.then fun _ => alike_done rfl) v v' abreast
  next =>
    refine Alike.ite .rfl ?_ ?_ s s' abreast
    · exact alike_advance.then fun _ => alike_call hinner _
    · exact alike_fail (.same _) alike.line

theorem alike_wordStatement (hinner : twins.Alike Eq inner inner) (hsub : twins.Alike Eq sub sub)
    {t t' : Token} (alike : twins.Tokens t t') (keyword : t.kind = .keyword) (word : String) :
    twins.Alike Eq (wordStatement settings inner sub t word)
      (wordStatement settings inner sub t' word) := by
  have valued (f : Node → Node) : twins.Alike Eq (do
      advance
      let value ← inner
      return f value) (do
      advance
      let value ← inner
      return f value) :=
    alike_advance.then fun _ => hinner.then fun _ => alike_done rfl
  unfold wordStatement
  split
  · exact alike_controlStatement hinner _
  · split
    case h_1 => exact alike_assignment hinner
    case h_2 => exact alike_functionDefinition hsub
    case h_3 | h_4 | h_5 => exact valued _
    case h_6 => exact alike_moveMouse hinner
    case h_7 | h_8 | h_9 => exact alike_inputOperation _
    case h_10 => exact alike_ifStatement hinner hsub
    case h_11 => exact alike_whileLoop hinner hsub
    case h_12 => exact alike_repeatLoop hinner hsub
    case h_13 => exact alike_advance.then fun _ => alike_done rfl
    case h_14 => exact alike_fail (.unexpectedKeyword (keyword ▸ alike.text)) alike.line

theorem at_keywordStatement (hinner : twins.Alike Eq inner inner) (hsub : twins.Alike Eq sub sub)
    (abreast : twins.Abreast s s') (keyword : s.cursor.current.kind = .keyword) :
    twins.At Eq (keywordStatement settings inner sub) (keywordStatement settings inner sub)
      s s' := by
  have alike := abreast.current
  refine At.current ?_
  rw [alike.upper_eq]
  refine ((alike_note _ _).then fun _ => ?_) s s' abreast
  exact alike_wordStatement hinner hsub alike keyword _

theorem alike_unterminated (hinner : twins.Alike Eq inner inner) (hsub : twins.Alike Eq sub sub) :
    twins.Alike Eq (unterminated settings inner sub) (unterminated settings inner sub) := by
  intro s s' abreast
  have alike := abreast.current
  refine At.current ?_
  rw [← alike.kind]
  cases kind : s.cursor.current.kind with
  | keyword => exact at_keywordStatement hinner hsub abreast kind
  | identifier => exact at_identifierStatement hinner abreast kind
  | operator =>
    dsimp only
    rw [← alike.isStep_eq]
    split
    · exact at_updateBefore abreast ‹_›
    · exact alike_unexpected _ s s' abreast
  | integer | float | time | string | eof => exact alike_unexpected _ s s' abreast

theorem alike_terminated (hinner : twins.Alike Eq inner inner) (hsub : twins.Alike Eq sub sub) :
    twins.Alike Eq (terminated settings inner sub) (terminated settings inner sub) := by
  refine (alike_acceptOperator _).then fun _ => .ite .rfl (alike_done rfl) ?_
  exact (alike_unterminated hinner hsub).then fun _ =>
    (alike_acceptOperator _).then fun _ => alike_done rfl

theorem alike_statement (settings : Settings) (levels : Nat) :
    twins.Alike Eq (statement settings levels) (statement settings levels) := by
  induction levels with
  | zero => exact alike_tooDeep settings
  | succ levels ih =>
    exact alike_nested settings (alike_terminated (alike_expression settings levels 1) ih)

theorem alike_topLevel (hsub : twins.Alike Eq sub sub) (read : List Node) (rounds : Nat) :
    twins.Alike Eq (topLevel sub read rounds) (topLevel sub read rounds) := by
  induction rounds generalizing read with
  | zero => exact alike_done rfl
  | succ rounds ih =>
    refine alike_current.bind fun t t' alike => .ite (by rw [alike.isEof_eq]) (alike_done rfl) ?_
    exact (alike_settled hsub).then fun _ => ih _

theorem alike_program (settings : Settings) (levels count count' : Nat) :
    twins.Alike Eq (program settings levels count) (program settings levels count') := by
  refine (alike_note _ _).then fun _ => ?_
  refine (alike_topLevel (alike_statement settings levels) [] _).then fun _ => ?_
  exact (alike_note _ _).then fun _ => alike_done rfl

theorem abreast_start (scopes : Tracker) {tokens tokens' : List Token}
    (first : twins.first = Cursor.complete tokens)
    (second : twins.second = Cursor.complete tokens') :
    twins.Abreast (start scopes tokens) (start scopes tokens') where
  first := (start_toList scopes tokens).trans first.symm
  second := (start_toList scopes tokens').trans second.symm
  position := by simp [start, Cursor.ofTokens, Cursor.position, Cursor.ofList_passed]
  within := by simp [start, Cursor.ofTokens, Cursor.position, Cursor.ofList_passed]
  depth := rfl
  scopes := rfl

theorem matched_reader (limit : Nat) (options : Options) (scopes : Tracker)
    {tokens tokens' : List Token} (first : twins.first = Cursor.complete tokens)
    (second : twins.second = Cursor.complete tokens')
    (within : (parseFrom limit options scopes tokens).position ≤ twins.reach) :
    twins.Matched Eq ((reader limit options tokens).run (start scopes tokens))
      ((reader limit options tokens').run (start scopes tokens')) := by
  -- the settings differ only in the number of rounds, and more rounds make no difference
  let rounds := max (settingsFor limit options tokens).bound
    (settingsFor limit options tokens').bound
  have allowed (tokens : List Token) (le : (settingsFor limit options tokens).bound ≤ rounds) :
      (program ⟨options, limit, rounds⟩ limit (Cursor.complete tokens).length).run
        (start scopes tokens) = (reader limit options tokens).run (start scopes tokens) :=
    program_rounds_irrelevant _ (remaining_le_of_toList (start_toList scopes tokens) limit options)
      le (Nat.le_refl _) (Nat.le_refl _)
  have abreast := abreast_start scopes first second
  have ended := alike_program ⟨options, limit, rounds⟩ limit (Cursor.complete tokens).length
    (Cursor.complete tokens').length _ _ abreast
  rw [At, allowed tokens (Nat.le_max_left _ _), allowed tokens' (Nat.le_max_right _ _)] at ended
  exact ended within

end DeskScript.Twins
