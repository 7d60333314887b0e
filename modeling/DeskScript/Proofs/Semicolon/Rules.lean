import DeskScript.Proofs.Semicolon.Basic

/-!
Every rule of the language is compared with itself on the tokens with a semicolon put in, one after
the other as the grammar has them. No rule goes on with a semicolon, so where the first run stays at
the place because of the token there, the second stays as well; the exceptions are the rules that
stop at a token which closes something, and that token is then taken. A statement that ends at the
place is where both runs come together again: `Insertion.along_watchedStatement`.
-/

namespace DeskScript.Insertion

open DeskScript.Parser

variable {ins : Insertion} {inner sub : Parser Node} {s s' t : State}

theorem not_step : ins.semicolon.isStep = false := by
  simp [Token.isStep, not_operator]

theorem precedence?_semicolon : ins.semicolon.precedence? = none := by
  have ⟨kind, text⟩ := Token.isOperator_iff.1 ins.sign
  simp [Token.precedence?, kind, text]

theorem not_startsExpression : ins.semicolon.startsExpression = false := by
  have ⟨kind, text⟩ := Token.isOperator_iff.1 ins.sign
  simp [Token.startsExpression, kind, text]

theorem along_literal (kind : Token.Kind) (text : String) (line : Nat) :
    ins.Along (literal kind text line) := by
  unfold literal
  split
  all_goals
    split
    · exact along_pure _
    · exact fun _ _ _ => at_fail _ _

theorem along_requireVariable (settings : Settings) (name : String) :
    ins.Along (requireVariable settings name) := by
  intro s s' abreast
  refine At.scopes abreast (.ite .rfl (fun _ => ?_) fun _ => at_pure ())
  exact At.previousLine fun line line' => at_fail _ _

theorem at_checkCall (abreast : ins.Abreast s s') (settings : Settings) (name : String)
    (given line line' : Nat) :
    ins.At (fun _ => True) (checkCall settings name given line)
      (checkCall settings name given line') s s' := by
  refine At.scopes abreast (.ite .rfl (fun _ => at_fail _ _) fun _ => .ite .rfl (fun _ => ?_) ?_)
  · split
    · exact .ite .rfl (fun _ => at_pure ()) fun _ => at_fail _ _
    · exact at_pure ()
  · exact fun _ => at_pure ()

theorem at_arguments (settings : Settings) (hinner : ins.Along inner) (abreast : ins.Abreast s s') :
    ins.At (fun _ => False) (arguments settings inner) (arguments settings inner) s s' := by
  refine .stop abreast (not_operator (by decide)) ?_
  exact (along_commaList hinner [] _ s s' abreast).mono fun _ => False.elim

theorem at_call (settings : Settings) (hinner : ins.Along inner) (name : String) :
    ins.At (fun _ => True) (call settings inner name) (call settings inner name) s s' := by
  refine At.previousLine fun line line' => at_advance.then fun _ t t' abreast => ?_
  refine (at_arguments settings hinner abreast).leaving (fun _ _ _ _ => ?_) ?_
  · exact (expectOperator_departs _ _).bind.takes
  · intro given t t' _ abreast
    refine (along_expectOperator (by decide) _ t t' abreast).then fun _ t t' abreast => ?_
    exact (at_checkCall abreast settings name _ line line').then fun _ _ _ _ => at_pure _

theorem at_updateBefore (settings : Settings) (level : ins.Level s s') :
    ins.At (fun _ => True) (updateBefore settings) (updateBefore settings) s s' := by
  refine At.current ?_
  rw [level.current_eq]
  refine at_advance.then fun _ => (along_expectIdentifier _).then fun name => ?_
  exact (along_requireVariable settings name).then fun _ => along_pure _

theorem along_updateAfter (name : String) (line : Nat) : ins.Along (updateAfter name line) := by
  intro s s' abreast
  refine At.current (.test (fun token => token.isStep && token.line == line)
    (fun token => do advance; return Node.update name token.text false) abreast ?_ ?_ ?_ ?_)
  · simp [not_step]
  · exact fun step => .of_advance (Token.not_eof_of_step (Bool.and_eq_true_iff.1 step).1)
  · exact fun _ => at_advance.then fun _ _ _ _ => at_pure _
  · exact at_pure _

theorem at_named (settings : Settings) (hinner : ins.Along inner) (level : ins.Level s s') :
    ins.At (fun _ => True) (named settings inner) (named settings inner) s s' := by
  refine At.current ?_
  rw [level.current_eq]
  refine at_advance.then fun _ t t' abreast => At.current ?_
  refine .test (·.isOperator "(") (fun _ => call settings inner _) abreast
    (not_operator (by decide)) ?_ ?_ ?_
  · exact fun opening => .of_advance (Token.not_eof_of_operator opening)
  · exact fun _ => at_call settings hinner _
  · exact (along_requireVariable settings _ t t' abreast).then fun _ => along_updateAfter _ _

theorem at_enclosed (hinner : ins.Along inner) :
    ins.At (fun _ => True) (enclosed inner) (enclosed inner) s s' :=
  at_advance.then fun _ => hinner.then fun _ =>
    (along_expectOperator (by decide) _).then fun _ => along_pure _

theorem at_negated : ins.At (fun _ => True) negated negated s s' := by
  refine at_advance.then fun _ t t' abreast => .departing abreast ?_ fun level => At.current ?_
  · refine .current (.ite (fun numeric => ?_) fun _ => trivial)
    exact .of_advance (Token.not_eof_of_numeric numeric)
  · rw [level.current_eq]
    refine .ite .rfl (fun _ => ?_) fun _ => at_unexpected _
    exact at_advance.then fun _ => along_literal _ _ _

theorem along_primary (settings : Settings) (hinner : ins.Along inner) :
    ins.Along (primary settings inner) := by
  intro s s' abreast
  refine .departing abreast primary_departs fun level => At.current ?_
  rw [level.current_eq]
  have passing {p : Parser Node} (hp : ins.Along p) :
      ins.At (fun _ => True) (do advance; p) (do advance; p) s s' :=
    at_advance.then fun _ => hp
  split
  case h_1 | h_2 | h_3 => exact passing (along_literal _ _ _)
  case h_4 => exact passing (along_pure _)
  case h_5 =>
    refine .ite .rfl (fun _ => passing (along_pure _)) fun _ => ?_
    exact .ite .rfl (fun _ => passing (along_pure _)) fun _ => at_unexpected _
  case h_6 => exact at_named settings hinner level
  case h_7 =>
    refine .ite .rfl (fun _ => at_enclosed hinner) fun _ => .ite .rfl (fun _ => at_negated) ?_
    exact fun _ => .ite .rfl (fun _ => at_updateBefore settings level) fun _ => at_unexpected _
  case h_8 => exact at_unexpected _

theorem along_operators {operand : Nat → Parser Node} (h : ∀ least, ins.Along (operand least))
    (least rounds : Nat) (left : Node) : ins.Along (operators operand least rounds left) := by
  induction rounds generalizing left with
  | zero => exact along_pure left
  | succ rounds ih =>
    intro s s' abreast
    refine At.current ?_
    rcases abreast.level_or_here with level | ⟨before, here⟩
    · rw [level.current_eq]
      split
      · refine .ite .rfl (fun _ => at_pure left) fun _ => ?_
        exact at_advance.then fun _ => (h _).then fun _ => ih _
      · exact at_pure left
    · rw [(before.current_of_here here).2.1, precedence?_semicolon]
      split
      next precedence operator =>
        split
        · exact at_pure left
        · exact .lost before here (.of_advance (Token.not_eof_of_precedence operator))
      next => exact at_pure left

theorem along_expression (settings : Settings) (levels least : Nat) :
    ins.Along (expression settings levels least) := by
  induction levels generalizing least with
  | zero => exact fun _ _ _ => at_tooDeep settings
  | succ levels ih =>
    refine along_nested settings ((along_primary settings (ih 1)).then fun left => ?_)
    exact along_operators ih least _ left

theorem at_statementsUntil (closes : Token → Bool) (other : closes ins.semicolon = false)
    (missing : Expectation) (hsub : ins.Along sub) (read : List Node) (rounds : Nat)
    (abreast : ins.Abreast s s') :
    ins.At (fun _ => False) (statementsUntil closes missing sub read rounds)
      (statementsUntil closes missing sub read rounds) s s' := by
  induction rounds generalizing read s s' with
  | zero => exact at_pure _
  | succ rounds ih =>
    refine .stop abreast other ?_
    cases ended : s.cursor.current.isEof with
    | true =>
      rw [if_pos rfl]
      exact at_unexpected _
    | false =>
      rw [abreast.goesOn ended, if_neg Bool.false_ne_true]
      exact (hsub s s' abreast).then fun next t t' there => ih (next :: read) there

theorem watchedStatement_derived (settings : Settings) (levels : Nat) :
    ReadsStatement settings.bound (watchedStatement settings levels) := by
  intro site s node t enough recorded ran
  have same : Silently 0 Node (watchedStatement settings levels) (statement settings levels) :=
    silently_watchedStatement levels 0
  have same := same s s rfl
  rw [ran] at same
  generalize plain : (statement settings levels).run s = ran' at same
  obtain ⟨result, u⟩ := ran'
  obtain ⟨rfl, left⟩ : .ok node = result ∧ t.silent = u.silent := same
  have cursor : t.cursor = u.cursor := congrArg (·.cursor) left
  have scopes : t.scopes = u.scopes := congrArg (·.scopes) left
  obtain ⟨tokens, reads, derives, recorded'⟩ :=
    statement_derived settings levels site s node u enough recorded plain
  rw [← cursor] at reads derives
  rw [← scopes] at recorded'
  exact ⟨tokens, reads, derives, recorded'⟩

theorem at_body (hsub : ins.Along sub) (reads : ReadsStatement ins.settings.bound sub)
    (construct : Construct) (closers : List String) (abreast : ins.Abreast s s') :
    ins.At (·.braced = true) (body ins.settings sub construct closers)
      (body ins.settings sub construct closers) s s' := by
  refine (along_acceptOperator (by decide) s s' abreast).then fun _ t t' abreast => ?_
  refine .ite .rfl (fun _ => ?_) fun _ => ?_
  · refine (at_statementsUntil _ (not_operator (by decide)) _ hsub [] _ abreast).leaving ?_ ?_
    · intro nodes u ran _
      obtain ⟨site, recorded⟩ := exists_recorded t.scopes
      obtain ⟨-, -, -, -, -, -, closing⟩ :=
        statementsUntil_derived reads ran abreast.matched.few (Nat.le_refl _) recorded
      exact (Departs.of_advance (Token.not_eof_of_operator closing)).takes
    · exact fun _ _ _ _ _ => at_advance.then fun _ _ _ _ => at_pure _
  · have other : closers.any ins.semicolon.isKeyword = false := by simp [not_keyword]
    refine (at_statementsUntil (fun token => closers.any token.isKeyword) other _ hsub [] _
      abreast).bind (fun _ _ _ _ _ => at_pure _) fun nodes u body v _ _ _ ran _ => ?_
    obtain ⟨rfl, -⟩ := run_pure_eq_ok.1 ran
    exact Bool.false_ne_true

theorem along_scopedBody {α : Type} (hsub : ins.Along sub)
    (reads : ReadsStatement ins.settings.bound sub) (construct : Construct)
    (closers : List String) {before after : List Command} (opens : Command.advance ∉ before)
    (closes : Command.advance ∉ after) (plain : .note bareEnd ∉ before)
    (plain' : .note bareEnd ∉ after) {f : Body → Parser α}
    (takes : ∀ body t, ¬ body.braced = true → t.cursor.current.isEof = false → (f body).Takes t)
    (hf : ∀ body, ins.Along (f body)) :
    ins.Along (between before (body ins.settings sub construct closers) after >>= f) := by
  intro s s' abreast
  have inside := at_body hsub reads construct closers (abreast.applyAll opens)
  refine (at_between opens closes plain plain' inside).leaving ?_ fun body t t' _ => hf body t t'
  intro body t ran unbraced
  obtain ⟨u, stopped, rfl⟩ := run_between_eq_ok.1 ran
  obtain ⟨site, recorded⟩ := exists_recorded (Command.applyAll before s).scopes
  obtain ⟨-, -, -, -, closing⟩ :=
    body_derived reads stopped (abreast.applyAll opens).matched.few recorded
  obtain ⟨word, -, here⟩ := closing (Bool.eq_false_iff.2 unbraced)
  refine takes body _ unbraced ?_
  rw [applyAll_cursor closes]
  exact Token.not_eof_of_keyword here

theorem along_closeBody (body : Body) : ins.Along (closeBody body) :=
  .ite (along_pure _) fun _ _ _ => at_advance.then fun _ => along_pure _

theorem closeBody_departs {body : Body} (unbraced : ¬ body.braced = true)
    (goesOn : t.cursor.current.isEof = false) : (closeBody body).Departs t :=
  .ite (fun braced => absurd braced unbraced) fun _ => .of_advance goesOn

theorem along_typeHint : ins.Along typeHint := by
  intro s s' abreast
  have departs : typeHint.Departs s := by
    refine .current (.ite (fun kind => .of_advance ?_) fun _ => trivial)
    exact kind.elim (fun kind => Token.not_eof_of_kind kind (by decide))
      fun kind => Token.not_eof_of_kind kind (by decide)
  refine .departing abreast departs fun level => At.current ?_
  rw [level.current_eq]
  refine .ite .rfl (fun _ => ?_) fun _ => at_unexpected _
  exact at_advance.then fun _ => Along.ite (along_pure _) fun _ _ _ => at_fail _ _

theorem along_annotation? : ins.Along annotation? :=
  (along_acceptOperator (by decide)).then fun _ =>
    .ite (along_typeHint.then fun _ => along_pure _) (along_pure _)

theorem along_lateAnnotation? (target : String) (early : Option String) :
    ins.Along (lateAnnotation? target early) := by
  refine (along_acceptOperator (by decide)).then fun _ => .ite ?_ (along_pure _)
  refine .ite (fun _ _ _ => ?_) (along_typeHint.then fun _ => along_pure _)
  exact At.previousLine fun _ _ => at_fail _ _

theorem along_declare (target : String) (value : Node) (type : Option String) (line : Nat) :
    ins.Along (declare target value type line) := by
  unfold declare
  split
  · exact fun _ _ _ => at_fail _ _
  · intro s s' _
    exact (at_note (by nofun)).then fun _ => (along_change _).then fun _ => along_pure _

theorem at_assignment (hinner : ins.Along inner) (level : ins.Level s s') :
    ins.At (fun _ => True) (assignment inner) (assignment inner) s s' := by
  refine At.current ?_
  rw [level.current_eq]
  refine at_advance.then fun _ => (along_expectIdentifier _).then fun target => ?_
  refine along_annotation?.then fun early => (along_expectOperator (by decide) _).then fun _ => ?_
  refine hinner.then fun value => (along_lateAnnotation? target early).then fun stated => ?_
  exact fun t t' abreast => At.scopes abreast (along_declare target value _ _ t t' abreast)

theorem along_parameters (function : String) (seen : List String) (rounds : Nat) :
    ins.Along (parameters function seen rounds) := by
  induction rounds generalizing seen with
  | zero => exact along_pure _
  | succ rounds ih =>
    refine (along_expectIdentifier _).then fun parameter => .ite (fun _ _ _ => ?_) ?_
    · exact At.previousLine fun _ _ => at_fail _ _
    · exact (along_acceptOperator (by decide)).then fun _ => .ite (ih _) (along_pure _)

theorem at_parameterList (settings : Settings) (function : String) (abreast : ins.Abreast s s') :
    ins.At (fun _ => False) (parameterList settings function) (parameterList settings function)
      s s' := by
  refine .stop abreast (not_operator (by decide)) ?_
  exact (along_parameters function [] _ s s' abreast).mono fun _ => False.elim

theorem at_functionDefinition (hsub : ins.Along sub)
    (reads : ReadsStatement ins.settings.bound sub) :
    ins.At (fun _ => True) (functionDefinition ins.settings sub)
      (functionDefinition ins.settings sub) s s' := by
  refine at_advance.then fun _ => (along_expectIdentifier _).then fun name => ?_
  refine (along_expectOperator (by decide) _).then fun _ t t' abreast => ?_
  refine (at_parameterList _ name abreast).leaving (fun _ _ _ _ => ?_) ?_
  · exact (expectOperator_departs _ _).bind.takes
  intro names t t' _ abreast
  refine (along_expectOperator (by decide) _ t t' abreast).then fun _ _ _ _ => ?_
  refine (at_note (by nofun)).then fun _ => (along_change _).then fun _ => ?_
  refine along_scopedBody hsub reads _ _ (advance_not_mem_enterFunction names)
    (by simp [leaveFunction]) (by simp [enterFunction]) (by simp [leaveFunction]) ?_ fun body => ?_
  · exact fun body t unbraced goesOn => (closeBody_departs unbraced goesOn).bind.takes
  · exact (along_closeBody body).then fun _ => along_pure _

theorem along_loopBody (hsub : ins.Along sub) (reads : ReadsStatement ins.settings.bound sub)
    (construct : Construct) : ins.Along (loopBody ins.settings sub construct) :=
  along_scopedBody hsub reads _ _ (by simp) (by simp) (by simp) (by simp)
    (fun _ _ unbraced goesOn => (closeBody_departs unbraced goesOn).takes) along_closeBody

theorem at_whileLoop (hinner : ins.Along inner) (hsub : ins.Along sub)
    (reads : ReadsStatement ins.settings.bound sub) :
    ins.At (fun _ => True) (whileLoop ins.settings inner sub) (whileLoop ins.settings inner sub)
      s s' :=
  at_advance.then fun _ => hinner.then fun _ =>
    (along_loopBody hsub reads _).then fun _ => along_pure _

theorem at_repeatLoop (hinner : ins.Along inner) (hsub : ins.Along sub)
    (reads : ReadsStatement ins.settings.bound sub) :
    ins.At (fun _ => True) (repeatLoop ins.settings inner sub) (repeatLoop ins.settings inner sub)
      s s' :=
  at_advance.then fun _ => hinner.then fun _ => (along_expectKeyword _ _).then fun _ =>
    (along_loopBody hsub reads _).then fun _ => along_pure _

theorem along_acceptElseIf : ins.Along acceptElseIf := by
  refine (along_acceptKeyword _).then fun _ => .ite (along_pure _) fun s s' abreast => ?_
  refine At.current (At.next? ?_)
  -- the semicolon may stand before `ELSE`, between the two words or behind them
  by_cases word : s.cursor.current.isKeyword "ELSE" = true
  · have goesOn := Token.not_eof_of_keyword word
    rcases abreast.level_or_here with level | ⟨before, here⟩
    · simp only [level.current_eq, word, Bool.true_and]
      refine .peek level goesOn (by simp [not_keyword]) ?_ (fun _ _ _ => ?_) (at_pure false)
      · intro follows
        exact .of_advance (Token.not_eof_of_keyword (Bool.and_eq_true_iff.1 follows).1)
      · exact at_advance.then fun _ _ _ _ => at_pure true
    · simp only [(before.current_of_here here).2.1, not_keyword, Bool.false_and]
      rw [if_neg Bool.false_ne_true]
      split
      · exact .lost before here (.of_advance goesOn)
      · exact at_pure false
  · have other : s'.cursor.current.isKeyword "ELSE" = false := by
      rcases abreast.level_or_here with level | ⟨before, here⟩
      · rw [level.current_eq, Bool.eq_false_iff.2 word]
      · rw [(before.current_of_here here).2.1, not_keyword]
    simp only [other, Bool.eq_false_iff.2 word, Bool.false_and]
    exact at_pure false

theorem at_branch (hinner : ins.Along inner) (hsub : ins.Along sub)
    (reads : ReadsStatement ins.settings.bound sub) (abreast : ins.Abreast s s') :
    ins.At (·.2.braced = true) (branch ins.settings inner sub) (branch ins.settings inner sub)
      s s' := by
  refine (hinner s s' abreast).then fun condition t t' abreast => ?_
  refine (along_acceptKeyword _ t t' abreast).then fun _ t t' abreast => ?_
  refine (at_body hsub reads _ _ abreast).bind (fun _ _ _ _ _ => at_pure _) ?_
  intro body u branch v _ unbraced _ ran _
  obtain ⟨rfl, -⟩ := run_pure_eq_ok.1 ran
  exact unbraced

theorem mem_of_elseIfs {settings : Settings} {read all : List (Node × Body)} {rounds : Nat}
    (ran : (elseIfs settings inner sub read rounds).run s = (.ok all, t)) {branch : Node × Body}
    (mem : branch ∈ read) : branch ∈ all := by
  induction rounds generalizing read s with
  | zero =>
    obtain ⟨rfl, -⟩ := run_pure_eq_ok.1 ran
    exact List.mem_reverse.2 mem
  | succ rounds ih =>
    obtain ⟨found, u, -, ran⟩ := run_bind_eq_ok.1 ran
    cases found with
    | true =>
      obtain ⟨next, v, -, ran⟩ := run_bind_eq_ok.1 ran
      exact ih ran (List.mem_cons_of_mem _ mem)
    | false =>
      obtain ⟨rfl, -⟩ := run_pure_eq_ok.1 ran
      exact List.mem_reverse.2 mem

theorem at_elseIfs (hinner : ins.Along inner) (hsub : ins.Along sub)
    (reads : ReadsStatement ins.settings.bound sub) (read : List (Node × Body)) (rounds : Nat)
    (abreast : ins.Abreast s s') :
    ins.At (∀ branch ∈ ·, branch.2.braced = true) (elseIfs ins.settings inner sub read rounds)
      (elseIfs ins.settings inner sub read rounds) s s' := by
  induction rounds generalizing read s s' with
  | zero => exact at_pure _
  | succ rounds ih =>
    refine (along_acceptElseIf s s' abreast).then fun _ t t' abreast => .ite .rfl (fun _ => ?_) ?_
    · refine (at_branch hinner hsub reads abreast).bind (fun _ _ _ _ there => ih _ there) ?_
      intro next u all v _ unbraced _ ran _ braced
      exact unbraced (braced next (mem_of_elseIfs ran (List.mem_cons_self ..)))
    · exact fun _ => at_pure _

theorem at_elseBranch? (hsub : ins.Along sub) (reads : ReadsStatement ins.settings.bound sub)
    (abreast : ins.Abreast s s') :
    ins.At (∀ body ∈ ·, body.braced = true) (elseBranch? ins.settings sub)
      (elseBranch? ins.settings sub) s s' := by
  refine (along_acceptKeyword _ s s' abreast).then fun _ t t' abreast => ?_
  refine .ite .rfl (fun _ => ?_) fun _ => at_pure _
  refine (at_body hsub reads _ _ abreast).bind (fun _ _ _ _ _ => at_pure _) ?_
  intro body u last v _ unbraced _ ran _ braced
  obtain ⟨rfl, -⟩ := run_pure_eq_ok.1 ran
  exact unbraced (braced body rfl)

theorem along_closeConditional (bodies : List Body) : ins.Along (closeConditional bodies) :=
  .ite (along_pure ()) (along_expectKeyword _ _)

theorem closeConditional_departs {bodies : List Body} (body : Body) (mem : body ∈ bodies)
    (unbraced : ¬ body.braced = true) : (closeConditional bodies).Departs t := by
  refine .ite (fun braced => ?_) fun _ => expectKeyword_departs _ _
  exact absurd (List.all_eq_true.1 braced body mem) unbraced

theorem at_ifStatement (hinner : ins.Along inner) (hsub : ins.Along sub)
    (reads : ReadsStatement ins.settings.bound sub) :
    ins.At (fun _ => True) (ifStatement ins.settings inner sub) (ifStatement ins.settings inner sub)
      s s' := by
  refine at_advance.then fun _ t t' abreast => ?_
  -- a branch that stops at the place is not in braces, and then the conditional ends with a word
  refine (at_branch hinner hsub reads abreast).leaving ?_ ?_
  · refine fun ⟨condition, first⟩ t _ unbraced => .after fun others t => .after fun last t => ?_
    exact (closeConditional_departs first (by simp) unbraced).bind.takes
  rintro ⟨condition, first⟩ t t' - abreast
  refine (at_elseIfs hinner hsub reads [] _ abreast).leaving ?_ fun others t t' _ abreast => ?_
  · intro others t _ unbraced
    obtain ⟨branch, mem, unbraced⟩ : ∃ branch ∈ others, ¬ branch.2.braced = true := by
      simpa using unbraced
    refine .after fun last t => (closeConditional_departs branch.2 ?_ unbraced).bind.takes
    simp only [List.mem_cons, List.mem_append, List.mem_map]
    exact .inl (.inr ⟨branch, mem, rfl⟩)
  refine (at_elseBranch? hsub reads abreast).leaving ?_ fun last t t' _ abreast => ?_
  · intro last t _ unbraced
    obtain ⟨body, mem, unbraced⟩ : ∃ body ∈ last, ¬ body.braced = true := by simpa using unbraced
    refine (closeConditional_departs body ?_ unbraced).bind.takes
    simp [Option.mem_toList.2 mem]
  exact (along_closeConditional _ t t' abreast).then fun _ => along_pure _

theorem along_controlValue (hinner : ins.Along inner) (begins : ∀ s, inner.Departs s)
    (control : Control) (line : Nat) : ins.Along (controlValue inner control line) := by
  intro s s' abreast
  refine At.current (.test
    (fun token => control.carriesValue && token.line == line && token.startsExpression)
    (fun _ => do let value ← inner; return some value) abreast ?_ ?_ ?_ ?_)
  · simp [not_startsExpression]
  · exact fun _ => (begins s).bind
  · exact fun _ => (hinner s s' abreast).then fun _ => along_pure _
  · exact at_pure none

theorem at_controlStatement (hinner : ins.Along inner) (begins : ∀ s, inner.Departs s)
    (control : Control) (level : ins.Level s s') :
    ins.At (fun _ => True) (controlStatement inner control) (controlStatement inner control)
      s s' := by
  refine At.current ?_
  rw [level.current_eq]
  refine at_advance.then fun _ => (along_controlValue hinner begins control _).then fun value => ?_
  exact fun t t' abreast => At.scopes abreast (.ite .rfl (fun _ => at_pure _) fun _ => at_fail _ _)

theorem along_closeCoordinates (enclosed : Bool) : ins.Along (closeCoordinates enclosed) :=
  .ite (along_expectOperator (by decide) _) (along_pure ())

theorem at_moveMouse (hinner : ins.Along inner) :
    ins.At (fun _ => True) (moveMouse inner) (moveMouse inner) s s' := by
  refine at_advance.then fun _ => (along_expectKeyword _ _).then fun _ => ?_
  refine (along_expectKeyword _ _).then fun _ => ?_
  refine (along_acceptOperator (by decide)).then fun enclosed => hinner.then fun x => ?_
  refine (along_expectOperator (by decide) _).then fun _ => hinner.then fun y => ?_
  exact (along_closeCoordinates enclosed).then fun _ => along_pure _

theorem at_inputOperation (operation : String) :
    ins.At (fun _ => True) (inputOperation operation) (inputOperation operation) s s' := by
  refine at_advance.then fun _ => ?_
  refine (along_acceptKeyword _).then fun _ => .ite (fun s s' abreast => ?_) ?_
  · refine .departing abreast (.current ?_) fun level => At.current ?_
    · split
      next key named => exact .of_advance (keyName?_eq_some named).2
      next => trivial
    · rw [level.current_eq]
      split
      · exact at_advance.then fun _ => along_pure _
      · exact at_unexpected _
  · refine (along_acceptKeyword _).then fun _ => .ite ?_ fun _ _ _ => at_unexpected _
    intro s s' abreast
    refine .departing abreast (.current ?_) fun level => At.current ?_
    · exact .ite (fun button => .of_advance (not_eof_of_category button)) fun _ => trivial
    · rw [level.current_eq]
      refine .ite .rfl (fun _ => ?_) fun _ => at_unexpected _
      exact at_advance.then fun _ => along_pure _

theorem at_identifierStatement (settings : Settings) (hinner : ins.Along inner)
    (level : ins.Level s s') (goesOn : s.cursor.current.isEof = false) :
    ins.At (fun _ => True) (identifierStatement settings inner) (identifierStatement settings inner)
      s s' := by
  refine At.current (At.next? ?_)
  rw [level.current_eq]
  refine .peek level goesOn not_step (fun step => ?_) (fun step t' level => ?_)
    (.peek level goesOn (not_operator (by decide)) ?_ ?_ (at_fail _ _))
  · refine .requireVariable (.current (.of_advance (Token.not_eof_of_step step)))
  · refine (along_requireVariable settings _ _ t' level.abreast).leaving
      (fun _ _ _ bad => absurd trivial bad) fun _ u u' checked there => ?_
    obtain rfl : u = s.advance :=
      (congrArg Prod.snd checked).symm.trans (requireVariable_state settings _ _)
    refine .departing there (.current (.of_advance (Token.not_eof_of_step step))) fun level => ?_
    refine At.current ?_
    rw [level.current_eq]
    exact at_advance.then fun _ => along_pure _
  · exact fun opening => .of_advance (Token.not_eof_of_operator opening)
  · exact fun _ _ _ => at_call settings hinner _

theorem at_wordStatement (hinner : ins.Along inner) (begins : ∀ s, inner.Departs s)
    (hsub : ins.Along sub) (reads : ReadsStatement ins.settings.bound sub) (token : Token)
    (word : String) (level : ins.Level s s') :
    ins.At (fun _ => True) (wordStatement ins.settings inner sub token word)
      (wordStatement ins.settings inner sub token word) s s' := by
  have valued (f : Node → Node) : ins.At (fun _ => True) (do
      advance
      let value ← inner
      return f value) (do
      advance
      let value ← inner
      return f value) s s' :=
    at_advance.then fun _ => hinner.then fun _ => along_pure _
  unfold wordStatement
  split
  · exact at_controlStatement hinner begins _ level
  · split
    case h_1 => exact at_assignment hinner level
    case h_2 => exact at_functionDefinition hsub reads
    case h_3 | h_4 | h_5 => exact valued _
    case h_6 => exact at_moveMouse hinner
    case h_7 | h_8 | h_9 => exact at_inputOperation _
    case h_10 => exact at_ifStatement hinner hsub reads
    case h_11 => exact at_whileLoop hinner hsub reads
    case h_12 => exact at_repeatLoop hinner hsub reads
    case h_13 => exact at_advance.then fun _ => along_pure _
    case h_14 => exact at_fail _ _

theorem at_keywordStatement (hinner : ins.Along inner) (begins : ∀ s, inner.Departs s)
    (hsub : ins.Along sub) (reads : ReadsStatement ins.settings.bound sub)
    (level : ins.Level s s') (goesOn : s.cursor.current.isEof = false) :
    ins.At (fun _ => True) (keywordStatement ins.settings inner sub)
      (keywordStatement ins.settings inner sub) s s' := by
  refine At.current ?_
  rw [level.current_eq]
  have noted : ins.At (fun _ => True) (note (.statement (Text.upper s.cursor.current.text)
      s.cursor.current.line)) (note (.statement (Text.upper s.cursor.current.text)
      s.cursor.current.line)) s s' := at_note (by nofun)
  refine noted.leaving (fun _ _ _ bad => absurd trivial bad) fun _ t t' ran there => ?_
  obtain ⟨-, rfl⟩ := Prod.mk.inj ran
  refine .departing there (wordStatement_departs ?_ _ _) fun level => ?_
  · exact goesOn
  · exact at_wordStatement hinner begins hsub reads _ _ level

theorem along_unterminated (hinner : ins.Along inner) (begins : ∀ s, inner.Departs s)
    (hsub : ins.Along sub) (reads : ReadsStatement ins.settings.bound sub) :
    ins.Along (unterminated ins.settings inner sub) := by
  intro s s' abreast
  refine .departing abreast unterminated_departs fun level => At.current ?_
  rw [level.current_eq]
  split
  next kind =>
    have goesOn := Token.not_eof_of_kind kind (by decide)
    exact at_keywordStatement hinner begins hsub reads level goesOn
  next kind =>
    have goesOn := Token.not_eof_of_kind kind (by decide)
    exact at_identifierStatement _ hinner level goesOn
  next =>
    exact .ite .rfl (fun _ => at_updateBefore ins.settings level) fun _ => at_unexpected _
  next => exact at_unexpected _

end DeskScript.Insertion
