import DeskScript.Proofs.Seam.Basic

/-!
Every rule of the language goes along a seam, one after the other as the grammar has them. A rule
that moves on without a test is used only where the file does not end. Two rules look at the line of
a token: there the seam helps, because the token after it stands on another line. Main statement:
`Seam.along_statement`.
-/

namespace DeskScript.Seam

open DeskScript.Parser

variable {seam : Seam} {inner sub : Parser Node} {s s' : State} {token : Token}

theorem along_literal (kind : Token.Kind) (text : String) (line : Nat) :
    seam.Along (literal kind text line) := by
  unfold literal
  split
  all_goals
    split
    · exact along_pure _
    · exact along_fail _ _

theorem along_requireVariable (settings : Settings) (name : String) :
    seam.Along (requireVariable settings name) := by
  refine along_scopes fun tracker => .ite (fun s s' _ => ?_) (along_pure ())
  exact At.previousLine fun line line' => at_fail _ _

theorem at_checkCall (abreast : seam.Abreast s s') (settings : Settings) (name : String)
    (given line line' : Nat) :
    seam.At (checkCall settings name given line) (checkCall settings name given line') s s' := by
  refine At.scopes ?_
  rw [← abreast.scopes]
  refine .ite .rfl (fun _ => at_fail _ _) fun _ => .ite .rfl (fun _ => ?_) fun _ => ?_
  · split
    · exact .ite .rfl (fun _ => along_pure () s s' abreast) fun _ => at_fail _ _
    · exact along_pure () s s' abreast
  · exact along_pure () s s' abreast

theorem along_arguments (settings : Settings) (hinner : seam.Along inner) :
    seam.Along (arguments settings inner) := by
  intro s s' abreast
  refine At.current (.ite (by rw [abreast.isOperator_eq (by decide)]) (fun _ => ?_) fun _ => ?_)
  · exact along_pure [] s s' abreast
  · exact along_commaList hinner [] _ s s' abreast

theorem at_call (settings : Settings) (hinner : seam.Along inner) (name : String)
    (abreast : seam.Abreast s s') (goesOn : s.cursor.current.isEof = false) :
    seam.At (call settings inner name) (call settings inner name) s s' := by
  refine At.previousLine fun line line' => (at_advance abreast goesOn).then fun _ t t' abreast => ?_
  refine (along_arguments settings hinner t t' abreast).then fun _ t t' abreast => ?_
  refine (along_expectOperator _ _ t t' abreast).then fun _ t t' abreast => ?_
  exact (at_checkCall abreast settings name _ line line').then fun _ => along_pure _

theorem at_updateBefore (settings : Settings) (abreast : seam.Abreast s s')
    (goesOn : s.cursor.current.isEof = false) :
    seam.At (updateBefore settings) (updateBefore settings) s s' := by
  refine At.current ?_
  rw [abreast.current_eq goesOn]
  refine (at_advance abreast goesOn).then fun _ => (along_expectIdentifier _).then fun name => ?_
  exact (along_requireVariable settings name).then fun _ => along_pure _

theorem along_updateAfter (name : String) (before : seam.Before token) :
    seam.Along (updateAfter name token.line) := by
  intro s s' abreast
  have ends (token : Token) (ended : token.isEof = true) : token.isStep = false := by
    simp [Token.isStep, Token.isOperator, Token.kind_of_eof ended]
  refine At.current (.ite (by rw [abreast.sameLine_eq before ends]) (fun step => ?_) fun _ => ?_)
  · have goesOn := Token.not_eof_of_step (Bool.and_eq_true_iff.1 step).1
    rw [abreast.current_eq goesOn]
    exact (at_advance abreast goesOn).then fun _ => along_pure _
  · exact along_pure _ s s' abreast

theorem at_named (settings : Settings) (hinner : seam.Along inner) (abreast : seam.Abreast s s')
    (goesOn : s.cursor.current.isEof = false) :
    seam.At (named settings inner) (named settings inner) s s' := by
  have ⟨same, before, _⟩ := abreast.step goesOn
  refine At.current ?_
  rw [same]
  refine (at_advance abreast goesOn).then fun _ t t' abreast => At.current ?_
  refine .ite (by rw [abreast.isOperator_eq (by decide)]) (fun opening => ?_) fun _ => ?_
  · exact at_call settings hinner _ abreast (Token.not_eof_of_operator opening)
  · refine (along_requireVariable settings _ t t' abreast).then fun _ => ?_
    exact along_updateAfter _ before

theorem at_enclosed (hinner : seam.Along inner) (abreast : seam.Abreast s s')
    (goesOn : s.cursor.current.isEof = false) : seam.At (enclosed inner) (enclosed inner) s s' :=
  (at_advance abreast goesOn).then fun _ => hinner.then fun _ =>
    (along_expectOperator _ _).then fun _ => along_pure _

theorem at_negated (abreast : seam.Abreast s s') (goesOn : s.cursor.current.isEof = false) :
    seam.At negated negated s s' := by
  refine (at_advance abreast goesOn).then fun _ t t' abreast => ?_
  refine At.demand abreast ?_ fun goesOn => ?_
  · intro token ended s a t ran
    have kind := Token.kind_of_eof ended
    simp [kind, Token.Kind.isNumeric] at ran
  · refine .ite .rfl (fun _ => ?_) fun _ => at_unexpected _
    exact (at_advance abreast goesOn).then fun _ => along_literal _ _ _

theorem along_primary (settings : Settings) (hinner : seam.Along inner) :
    seam.Along (primary settings inner) := by
  intro s s' abreast
  refine At.demand abreast ?_ fun goesOn => ?_
  · intro token ended s a t ran
    have kind := Token.kind_of_eof ended
    simp [kind] at ran
  have passing {p : Parser Node} (hp : seam.Along p) :
      seam.At (do advance; p) (do advance; p) s s' :=
    (at_advance abreast goesOn).then fun _ => hp
  split
  case h_1 | h_2 | h_3 => exact passing (along_literal _ _ _)
  case h_4 => exact passing (along_pure _)
  case h_5 =>
    refine .ite .rfl (fun _ => passing (along_pure _)) fun _ => ?_
    exact .ite .rfl (fun _ => passing (along_pure _)) fun _ => at_unexpected _
  case h_6 => exact at_named settings hinner abreast goesOn
  case h_7 =>
    refine .ite .rfl (fun _ => at_enclosed hinner abreast goesOn) fun _ => ?_
    refine .ite .rfl (fun _ => at_negated abreast goesOn) fun _ => ?_
    exact .ite .rfl (fun _ => at_updateBefore settings abreast goesOn) fun _ => at_unexpected _
  case h_8 => exact at_unexpected _

theorem along_operators {operand : Nat → Parser Node} (h : ∀ least, seam.Along (operand least))
    (least rounds : Nat) (left : Node) : seam.Along (operators operand least rounds left) := by
  induction rounds generalizing left with
  | zero => exact along_pure left
  | succ rounds ih =>
    intro s s' abreast
    refine At.current ?_
    rw [abreast.precedence?_eq]
    split
    next precedence operator =>
      have goesOn := Token.not_eof_of_precedence operator
      rw [abreast.current_eq goesOn]
      refine .ite .rfl (fun _ => along_pure left s s' abreast) fun _ => ?_
      exact (at_advance abreast goesOn).then fun _ => (h _).then fun _ => ih _
    next => exact along_pure left s s' abreast

theorem along_expression (settings : Settings) (levels least : Nat) :
    seam.Along (expression settings levels least) := by
  induction levels generalizing least with
  | zero => exact fun _ _ _ => at_tooDeep settings
  | succ levels ih =>
    refine along_nested settings ((along_primary settings (ih 1)).then fun left => ?_)
    exact along_operators ih least _ left

theorem along_statementsUntil {closes : Token → Bool}
    (stops : ∀ token, closes token = true → token.isEof = false) (missing : Expectation)
    (hsub : seam.Along sub) (read : List Node) (rounds : Nat) :
    seam.Along (statementsUntil closes missing sub read rounds) := by
  induction rounds generalizing read with
  | zero => exact along_pure _
  | succ rounds ih =>
    intro s s' abreast
    refine At.demand abreast ?_ fun goesOn => ?_
    · intro token ended s a t ran
      have unclosed : closes token = false := by
        rw [Bool.eq_false_iff]
        intro closing
        simp [stops token closing] at ended
      simp [unclosed, ended] at ran
    · refine .ite .rfl (fun _ => along_pure _ s s' abreast) fun _ => ?_
      refine .ite .rfl (fun _ => at_unexpected _) fun _ => ?_
      exact (hsub s s' abreast).then fun _ => ih _

theorem goesOn_of_statementsUntil (reads : ReadsStatement seam.settings.bound sub)
    {closes : Token → Bool} (stops : ∀ token, closes token = true → token.isEof = false)
    {missing : Expectation} {nodes : List Node} {t : State} (abreast : seam.Abreast s s')
    (ran : (statementsUntil closes missing sub [] seam.settings.bound).run s = (.ok nodes, t)) :
    t.cursor.current.isEof = false := by
  obtain ⟨site, recorded⟩ := exists_recorded s.scopes
  obtain ⟨-, -, -, -, -, -, closing⟩ :=
    statementsUntil_derived reads ran abreast.few (Nat.le_refl _) recorded
  exact stops _ closing

theorem not_eof_of_closer {closers : List String} (token : Token)
    (closing : closers.any token.isKeyword = true) : token.isEof = false := by
  obtain ⟨word, -, here⟩ := List.any_eq_true.1 closing
  exact Token.not_eof_of_keyword here

theorem along_body (hsub : seam.Along sub) (reads : ReadsStatement seam.settings.bound sub)
    (construct : Construct) (closers : List String) :
    seam.Along (body seam.settings sub construct closers) := by
  refine (along_acceptOperator (by decide)).then fun _ => .ite (fun s s' abreast => ?_) ?_
  · have stops (token : Token) (here : token.isOperator "\x7d" = true) : token.isEof = false :=
      Token.not_eof_of_operator here
    refine (along_statementsUntil stops _ hsub [] _ s s' abreast).bind fun _ t t' ran there => ?_
    have goesOn := goesOn_of_statementsUntil reads stops abreast ran
    exact (at_advance there goesOn).then fun _ => along_pure _
  · exact (along_statementsUntil not_eof_of_closer _ hsub [] _).then fun _ => along_pure _

theorem goesOn_of_body (reads : ReadsStatement seam.settings.bound sub) {construct : Construct}
    {closers : List String} {body : Body} {t : State} (abreast : seam.Abreast s s')
    (ran : (Parser.body seam.settings sub construct closers).run s = (.ok body, t))
    (unbraced : body.braced = false) : t.cursor.current.isEof = false := by
  obtain ⟨site, recorded⟩ := exists_recorded s.scopes
  obtain ⟨-, -, -, -, closing⟩ := body_derived reads ran abreast.few recorded
  obtain ⟨word, -, here⟩ := closing unbraced
  exact Token.not_eof_of_keyword here

theorem along_scopedBody {α : Type} (hsub : seam.Along sub)
    (reads : ReadsStatement seam.settings.bound sub) (construct : Construct)
    (closers : List String) {before after : List Command} (opens : Command.advance ∉ before)
    (closes : Command.advance ∉ after) {f : Body → Parser α}
    (hf : ∀ body t t', seam.Abreast t t' →
      (body.braced = false → t.cursor.current.isEof = false) → seam.At (f body) (f body) t t') :
    seam.Along (between before (body seam.settings sub construct closers) after >>= f) := by
  intro s s' abreast
  have hbody := along_between opens closes (along_body hsub reads construct closers)
  refine (hbody s s' abreast).bind fun body t t' ran there => hf body t t' there ?_
  obtain ⟨u, inside, rfl⟩ := run_between_eq_ok.1 ran
  rw [applyAll_cursor closes]
  exact goesOn_of_body reads (abreast.applyAll opens) inside

theorem at_closeBody {body : Body} (abreast : seam.Abreast s s')
    (goesOn : body.braced = false → s.cursor.current.isEof = false) :
    seam.At (closeBody body) (closeBody body) s s' := by
  refine .ite .rfl (fun _ => along_pure _ s s' abreast) fun unbraced => ?_
  exact (at_advance abreast (goesOn (Bool.eq_false_iff.2 unbraced))).then fun _ => along_pure _

theorem along_typeHint : seam.Along typeHint := by
  intro s s' abreast
  refine At.demand abreast ?_ fun goesOn => ?_
  · intro token ended s a t ran
    have kind := Token.kind_of_eof ended
    simp [kind] at ran
  · refine .ite .rfl (fun _ => ?_) fun _ => at_unexpected _
    exact (at_advance abreast goesOn).then fun _ => Along.ite (along_pure _) (along_fail _ _)

theorem along_annotation? : seam.Along annotation? :=
  (along_acceptOperator (by decide)).then fun _ =>
    .ite (along_typeHint.then fun _ => along_pure _) (along_pure _)

theorem along_lateAnnotation? (target : String) (early : Option String) :
    seam.Along (lateAnnotation? target early) := by
  refine (along_acceptOperator (by decide)).then fun _ => .ite ?_ (along_pure _)
  refine .ite (fun _ _ _ => ?_) (along_typeHint.then fun _ => along_pure _)
  exact At.previousLine fun _ _ => at_fail _ _

theorem along_declare (target : String) (value : Node) (type : Option String) (line : Nat) :
    seam.Along (declare target value type line) := by
  unfold declare
  split
  · exact along_fail _ _
  · exact (along_note _).then fun _ => (along_change _).then fun _ => along_pure _

theorem at_assignment (hinner : seam.Along inner) (abreast : seam.Abreast s s')
    (goesOn : s.cursor.current.isEof = false) :
    seam.At (assignment inner) (assignment inner) s s' := by
  refine At.current ?_
  rw [abreast.current_eq goesOn]
  refine (at_advance abreast goesOn).then fun _ => (along_expectIdentifier _).then fun target => ?_
  refine along_annotation?.then fun early => (along_expectOperator _ _).then fun _ => ?_
  refine hinner.then fun value => (along_lateAnnotation? target early).then fun stated => ?_
  exact along_scopes fun tracker => along_declare target value _ _

theorem along_parameters (function : String) (seen : List String) (rounds : Nat) :
    seam.Along (parameters function seen rounds) := by
  induction rounds generalizing seen with
  | zero => exact along_pure _
  | succ rounds ih =>
    refine (along_expectIdentifier _).then fun parameter => .ite (fun _ _ _ => ?_) ?_
    · exact At.previousLine fun _ _ => at_fail _ _
    · exact (along_acceptOperator (by decide)).then fun _ => .ite (ih _) (along_pure _)

theorem along_parameterList (settings : Settings) (function : String) :
    seam.Along (parameterList settings function) := by
  intro s s' abreast
  refine At.current (.ite (by rw [abreast.isOperator_eq (by decide)]) (fun _ => ?_) fun _ => ?_)
  · exact along_pure [] s s' abreast
  · exact along_parameters function [] _ s s' abreast

theorem at_functionDefinition (hsub : seam.Along sub)
    (reads : ReadsStatement seam.settings.bound sub) (abreast : seam.Abreast s s')
    (goesOn : s.cursor.current.isEof = false) :
    seam.At (functionDefinition seam.settings sub) (functionDefinition seam.settings sub) s s' := by
  refine (at_advance abreast goesOn).then fun _ => (along_expectIdentifier _).then fun name => ?_
  refine (along_expectOperator _ _).then fun _ => (along_parameterList _ name).then fun names => ?_
  refine (along_expectOperator _ _).then fun _ => (along_note _).then fun _ => ?_
  refine (along_change _).then fun _ => ?_
  refine along_scopedBody hsub reads _ _ (advance_not_mem_enterFunction names)
    (by simp [leaveFunction]) fun body t t' abreast closing => ?_
  exact (at_closeBody abreast closing).then fun _ => along_pure _

theorem along_loopBody (hsub : seam.Along sub) (reads : ReadsStatement seam.settings.bound sub)
    (construct : Construct) : seam.Along (loopBody seam.settings sub construct) :=
  along_scopedBody hsub reads _ _ (by simp) (by simp) fun _ _ _ => at_closeBody

theorem at_whileLoop (hinner : seam.Along inner) (hsub : seam.Along sub)
    (reads : ReadsStatement seam.settings.bound sub) (abreast : seam.Abreast s s')
    (goesOn : s.cursor.current.isEof = false) :
    seam.At (whileLoop seam.settings inner sub) (whileLoop seam.settings inner sub) s s' :=
  (at_advance abreast goesOn).then fun _ => hinner.then fun _ =>
    (along_loopBody hsub reads _).then fun _ => along_pure _

theorem at_repeatLoop (hinner : seam.Along inner) (hsub : seam.Along sub)
    (reads : ReadsStatement seam.settings.bound sub) (abreast : seam.Abreast s s')
    (goesOn : s.cursor.current.isEof = false) :
    seam.At (repeatLoop seam.settings inner sub) (repeatLoop seam.settings inner sub) s s' :=
  (at_advance abreast goesOn).then fun _ => hinner.then fun _ =>
    (along_expectKeyword _ _).then fun _ => (along_loopBody hsub reads _).then fun _ => along_pure _

theorem elseIf_eq (abreast : seam.Abreast s s') :
    (s'.cursor.current.isKeyword "ELSE" && s'.cursor.next?.any fun next =>
        next.isKeyword "IF" && next.line == s'.cursor.current.line) =
      (s.cursor.current.isKeyword "ELSE" && s.cursor.next?.any fun next =>
        next.isKeyword "IF" && next.line == s.cursor.current.line) := by
  rw [abreast.isKeyword_eq (by decide)]
  cases word : s.cursor.current.isKeyword "ELSE" with
  | false => rfl
  | true =>
    have goesOn := Token.not_eof_of_keyword word
    have ⟨same, before, ahead⟩ := abreast.step goesOn
    have ends (token : Token) (ended : token.isEof = true) : token.isKeyword "IF" = false := by
      simp [Token.isKeyword, Token.kind_of_eof ended]
    have line := ahead.sameLine_eq before ends
    rw [Cursor.next?_eq_some goesOn, Cursor.next?_eq_some (same ▸ goesOn), same]
    exact line

theorem along_acceptElseIf : seam.Along acceptElseIf := by
  refine (along_acceptKeyword (by decide)).then fun _ => .ite (along_pure _) ?_
  intro s s' abreast
  refine At.current (At.next? (.ite (by rw [elseIf_eq abreast]) (fun here => ?_) fun _ => ?_))
  · -- both words are moved past, and neither of them ends the file
    have ⟨word, follows⟩ := Bool.and_eq_true_iff.1 here
    have goesOn := Token.not_eof_of_keyword word
    rw [Cursor.next?_eq_some goesOn, Option.any_some] at follows
    have second := Token.not_eof_of_keyword (Bool.and_eq_true_iff.1 follows).1
    refine (at_advance abreast goesOn).bind fun _ t t' ran there => ?_
    obtain ⟨-, rfl⟩ := Prod.mk.inj ran
    exact (at_advance there second).then fun _ => along_pure _
  · exact along_pure _ s s' abreast

theorem along_branch (hinner : seam.Along inner) (hsub : seam.Along sub)
    (reads : ReadsStatement seam.settings.bound sub) :
    seam.Along (branch seam.settings inner sub) :=
  hinner.then fun _ => (along_acceptKeyword (by decide)).then fun _ =>
    (along_body hsub reads _ _).then fun _ => along_pure _

theorem along_elseIfs (hinner : seam.Along inner) (hsub : seam.Along sub)
    (reads : ReadsStatement seam.settings.bound sub) (read : List (Node × Body)) (rounds : Nat) :
    seam.Along (elseIfs seam.settings inner sub read rounds) := by
  induction rounds generalizing read with
  | zero => exact along_pure _
  | succ rounds ih =>
    refine along_acceptElseIf.then fun _ => .ite ?_ (along_pure _)
    exact (along_branch hinner hsub reads).then fun _ => ih _

theorem along_elseBranch? (hsub : seam.Along sub)
    (reads : ReadsStatement seam.settings.bound sub) :
    seam.Along (elseBranch? seam.settings sub) :=
  (along_acceptKeyword (by decide)).then fun _ =>
    .ite ((along_body hsub reads _ _).then fun _ => along_pure _) (along_pure _)

theorem along_closeConditional (bodies : List Body) : seam.Along (closeConditional bodies) :=
  .ite (along_pure ()) (along_expectKeyword _ _)

theorem at_ifStatement (hinner : seam.Along inner) (hsub : seam.Along sub)
    (reads : ReadsStatement seam.settings.bound sub) (abreast : seam.Abreast s s')
    (goesOn : s.cursor.current.isEof = false) :
    seam.At (ifStatement seam.settings inner sub) (ifStatement seam.settings inner sub) s s' := by
  refine (at_advance abreast goesOn).then fun _ => ?_
  refine (along_branch hinner hsub reads).then fun ⟨condition, first⟩ => ?_
  refine (along_elseIfs hinner hsub reads [] _).then fun others => ?_
  refine (along_elseBranch? hsub reads).then fun last => ?_
  exact (along_closeConditional _).then fun _ => along_pure _

theorem along_controlValue (hinner : seam.Along inner) (control : Control)
    (before : seam.Before token) : seam.Along (controlValue inner control token.line) := by
  intro s s' abreast
  have ends (token : Token) (ended : token.isEof = true) : token.startsExpression = false := by
    simp [Token.startsExpression, Token.kind_of_eof ended]
  have line := abreast.sameLine_eq before ends
  refine At.current (.ite ?_ (fun _ => ?_) fun _ => along_pure _ s s' abreast)
  · rw [Bool.and_right_comm, Bool.and_assoc, ← line, ← Bool.and_assoc, Bool.and_right_comm]
  · exact (hinner s s' abreast).then fun _ => along_pure _

theorem at_controlStatement (hinner : seam.Along inner) (control : Control)
    (abreast : seam.Abreast s s') (goesOn : s.cursor.current.isEof = false) :
    seam.At (controlStatement inner control) (controlStatement inner control) s s' := by
  have ⟨same, before, _⟩ := abreast.step goesOn
  refine At.current ?_
  rw [same]
  refine (at_advance abreast goesOn).then fun _ => ?_
  refine (along_controlValue hinner control before).then fun value => along_scopes fun _ => ?_
  exact .ite (along_pure _) (along_fail _ _)

theorem along_closeCoordinates (enclosed : Bool) : seam.Along (closeCoordinates enclosed) :=
  .ite (along_expectOperator _ _) (along_pure ())

theorem at_moveMouse (hinner : seam.Along inner) (abreast : seam.Abreast s s')
    (goesOn : s.cursor.current.isEof = false) :
    seam.At (moveMouse inner) (moveMouse inner) s s' := by
  refine (at_advance abreast goesOn).then fun _ => (along_expectKeyword _ _).then fun _ => ?_
  refine (along_expectKeyword _ _).then fun _ => ?_
  refine (along_acceptOperator (by decide)).then fun enclosed => hinner.then fun x => ?_
  refine (along_expectOperator _ _).then fun _ => hinner.then fun y => ?_
  exact (along_closeCoordinates enclosed).then fun _ => along_pure _

theorem at_inputOperation (operation : String) (abreast : seam.Abreast s s')
    (goesOn : s.cursor.current.isEof = false) :
    seam.At (inputOperation operation) (inputOperation operation) s s' := by
  refine (at_advance abreast goesOn).then fun _ => ?_
  refine (along_acceptKeyword (by decide)).then fun _ => .ite ?_ ?_
  · intro s s' abreast
    refine At.demand abreast ?_ fun goesOn => ?_
    · intro token ended s a t ran
      have kind := Token.kind_of_eof ended
      simp [keyName?, kind] at ran
    · split
      · exact (at_advance abreast goesOn).then fun _ => along_pure _
      · exact at_unexpected _
  · refine (along_acceptKeyword (by decide)).then fun _ => .ite ?_ fun _ _ _ => at_unexpected _
    intro s s' abreast
    refine At.demand abreast ?_ fun goesOn => ?_
    · intro token ended s a t ran
      have kind := Token.kind_of_eof ended
      simp [Token.category?, kind] at ran
    · refine .ite .rfl (fun _ => ?_) fun _ => at_unexpected _
      exact (at_advance abreast goesOn).then fun _ => along_pure _

theorem at_identifierStatement (settings : Settings) (hinner : seam.Along inner)
    (abreast : seam.Abreast s s') (goesOn : s.cursor.current.isEof = false) :
    seam.At (identifierStatement settings inner) (identifierStatement settings inner) s s' := by
  have ⟨same, _, ahead⟩ := abreast.step goesOn
  refine At.current (At.next? ?_)
  rw [Cursor.next?_eq_some goesOn, Cursor.next?_eq_some (same ▸ goesOn), same]
  simp only [Option.any_some]
  -- at the seam the second run may see `++` or a parenthesis here, but the first one fails
  cases last : s.advance.cursor.current.isEof with
  | true =>
    have kind := Token.kind_of_eof last
    rw [State.advance_cursor] at kind
    rw [if_neg (by simp [Token.isStep, Token.isOperator, kind]),
      if_neg (by simp [Token.isOperator, kind])]
    exact at_fail _ _
  | false =>
    rw [← State.advance_cursor, ← State.advance_cursor, ahead.current_eq last]
    refine .ite .rfl (fun step => ?_) fun _ => .ite .rfl (fun opening => ?_) fun _ => at_fail _ _
    · refine (at_advance abreast goesOn).bind fun _ t t' ran there => ?_
      obtain ⟨-, rfl⟩ := Prod.mk.inj ran
      refine (along_requireVariable settings _ _ _ there).bind fun _ u u' checked there => ?_
      obtain rfl : u = s.advance :=
        (congrArg Prod.snd checked).symm.trans (requireVariable_state settings _ _)
      refine At.current ?_
      rw [there.current_eq last]
      exact (at_advance there last).then fun _ => along_pure _
    · refine (at_advance abreast goesOn).bind fun _ t t' ran there => ?_
      obtain ⟨-, rfl⟩ := Prod.mk.inj ran
      exact at_call settings hinner _ there last

theorem at_wordStatement (hinner : seam.Along inner) (hsub : seam.Along sub)
    (reads : ReadsStatement seam.settings.bound sub) (token : Token) (word : String)
    (abreast : seam.Abreast s s') (goesOn : s.cursor.current.isEof = false) :
    seam.At (wordStatement seam.settings inner sub token word)
      (wordStatement seam.settings inner sub token word) s s' := by
  have valued (f : Node → Node) : seam.At (do
      advance
      let value ← inner
      return f value) (do
      advance
      let value ← inner
      return f value) s s' :=
    (at_advance abreast goesOn).then fun _ => hinner.then fun _ => along_pure _
  unfold wordStatement
  split
  · exact at_controlStatement hinner _ abreast goesOn
  · split
    case h_1 => exact at_assignment hinner abreast goesOn
    case h_2 => exact at_functionDefinition hsub reads abreast goesOn
    case h_3 | h_4 | h_5 => exact valued _
    case h_6 => exact at_moveMouse hinner abreast goesOn
    case h_7 | h_8 | h_9 => exact at_inputOperation _ abreast goesOn
    case h_10 => exact at_ifStatement hinner hsub reads abreast goesOn
    case h_11 => exact at_whileLoop hinner hsub reads abreast goesOn
    case h_12 => exact at_repeatLoop hinner hsub reads abreast goesOn
    case h_13 => exact (at_advance abreast goesOn).then fun _ => along_pure _
    case h_14 => exact at_fail _ _

theorem at_keywordStatement (hinner : seam.Along inner) (hsub : seam.Along sub)
    (reads : ReadsStatement seam.settings.bound sub) (abreast : seam.Abreast s s')
    (goesOn : s.cursor.current.isEof = false) :
    seam.At (keywordStatement seam.settings inner sub) (keywordStatement seam.settings inner sub)
      s s' := by
  refine At.current ?_
  rw [abreast.current_eq goesOn]
  refine (along_note _ s s' abreast).bind fun _ t t' ran there => ?_
  obtain ⟨-, rfl⟩ := Prod.mk.inj ran
  exact at_wordStatement hinner hsub reads _ _ there goesOn

theorem along_unterminated (hinner : seam.Along inner) (hsub : seam.Along sub)
    (reads : ReadsStatement seam.settings.bound sub) :
    seam.Along (unterminated seam.settings inner sub) := by
  intro s s' abreast
  refine At.demand abreast ?_ fun goesOn => ?_
  · intro token ended s a t ran
    have kind := Token.kind_of_eof ended
    simp [kind] at ran
  split
  · exact at_keywordStatement hinner hsub reads abreast goesOn
  · exact at_identifierStatement seam.settings hinner abreast goesOn
  · refine .ite .rfl (fun _ => ?_) fun _ => at_unexpected _
    exact at_updateBefore seam.settings abreast goesOn
  · exact at_unexpected _

theorem along_terminated (hinner : seam.Along inner) (hsub : seam.Along sub)
    (reads : ReadsStatement seam.settings.bound sub) :
    seam.Along (terminated seam.settings inner sub) := by
  refine (along_acceptOperator (by decide)).then fun _ => .ite (along_pure _) ?_
  exact (along_unterminated hinner hsub reads).then fun _ =>
    (along_acceptOperator (by decide)).then fun _ => along_pure _

theorem along_statement (levels : Nat) : seam.Along (statement seam.settings levels) := by
  induction levels with
  | zero => exact fun _ _ _ => at_tooDeep seam.settings
  | succ levels ih =>
    have reads : ReadsStatement seam.settings.bound (statement seam.settings levels) :=
      statement_derived seam.settings levels
    exact along_nested _ (along_terminated (along_expression _ levels 1) ih reads)

end DeskScript.Seam
