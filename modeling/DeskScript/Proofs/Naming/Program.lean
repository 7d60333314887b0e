import DeskScript.Proofs.Grammar.Declaration
import DeskScript.Proofs.Naming.Expression

/-!
Statements and programs that are read with checks on names against those read without. Main
statement: `parse_checked_iff`, a script is accepted with checks made on the way if and only if it
is accepted without them and its tree passes a check of its own.
-/

namespace DeskScript.Parser

open Check

variable {α : Type} {settings : Settings} {options : Options} {K : Option Names}
variable {inner inner' sub sub' : Parser Node} {p q : Parser α} {E : α → Option Names}

theorem Checked.change {made : Tracker.Change} {f : Names → Names}
    (keeps : ∀ names tracker, names.Describe tracker → (f names).Describe (made.apply tracker)) :
    Checked K (change made) (change made) fun _ => K.map f := by
  constructor
  · intro s a t names known describe ran
    obtain ⟨-, rfl⟩ : () = a ∧ { s with scopes := made.apply s.scopes } = t := by simpa using ran
    exact ⟨ran, f names, by rw [known, Option.map_some], keeps _ _ describe⟩
  · intro s a t _ ran passes
    exact ⟨by simpa using passes, ran⟩

theorem pop_chain (tracker : Tracker) (context : Context) :
    (tracker.pop context).2.chain = tracker.chain := by
  unfold Tracker.pop
  repeat' split
  all_goals rfl

theorem Checked.inLoop (hp : Checked K p q E) :
    Checked K (between [.scope (.push .loop)] p [.scope (.pop .loop)])
      (between [.scope (.push .loop)] q [.scope (.pop .loop)]) E := by
  have pushed (s : State) {names : Names} (describe : names.Describe s.scopes) :
      names.Describe (Command.applyAll [.scope (.push .loop)] s).scopes :=
    describe.of_chain rfl
  constructor
  · intro s a t names known describe ran
    obtain ⟨u, inside, rfl⟩ := run_between_eq_ok.1 ran
    obtain ⟨inside', after, passed, describe'⟩ := hp.sound known (pushed s describe) inside
    refine ⟨run_between_eq_ok.2 ⟨u, inside', rfl⟩, after, passed, ?_⟩
    exact describe'.of_chain (pop_chain u.scopes .loop)
  · intro s a t describe ran passes
    obtain ⟨u, inside', rfl⟩ := run_between_eq_ok.1 ran
    obtain ⟨some, inside⟩ :=
      hp.complete (fun names known => pushed s (describe names known)) inside' passes
    exact ⟨some, run_between_eq_ok.2 ⟨u, inside, rfl⟩⟩

theorem Judged.inFunction {judge : α → Check} (parameters : List String)
    (balanced : ∀ s, Balanced (p.commands s)) (hp : Judged judge p q) :
    Judged (fun a => inScope parameters (judge a))
      (between (enterFunction parameters) p leaveFunction)
      (between (enterFunction parameters) q leaveFunction) := by
  intro K
  have inside := hp (K.map (·.enter parameters))
  constructor
  -- whatever is declared inside is forgotten, so the names outside still describe the scopes
  · intro s a t names known describe ran
    have scopes := run_inFunction_scopes balanced parameters s
    rw [ran] at scopes
    obtain ⟨u, within, rfl⟩ := run_between_eq_ok.1 ran
    obtain ⟨within', after, passed, -⟩ :=
      inside.sound (by rw [known, Option.map_some]) (describe.enter parameters) within
    refine ⟨run_between_eq_ok.2 ⟨u, within', rfl⟩, names, ?_, scopes ▸ describe⟩
    rw [known, Option.map_some, Option.bind_some] at passed
    rw [known, Option.bind_some]
    exact congrArg (Option.map fun _ => names) passed
  · intro s a t describe ran passes
    obtain ⟨u, within', rfl⟩ := run_between_eq_ok.1 ran
    cases K with
    | none => simp at passes
    | some names =>
      have passes' : (judge a (names.enter parameters)).isSome := by
        simpa [inScope] using passes
      have entered : ∀ other, (some names).map (·.enter parameters) = some other →
          other.Describe (Command.applyAll (enterFunction parameters) s).scopes := by
        intro other same
        obtain rfl : names.enter parameters = other := by simpa using same
        exact (describe names rfl).enter parameters
      obtain ⟨-, within⟩ := inside.complete entered within' passes'
      exact ⟨rfl, run_between_eq_ok.2 ⟨u, within, rfl⟩⟩

theorem Checked.settled (hp : Checked K p q E) : Checked K p.settled q.settled E := by
  constructor
  · intro s a t names known describe ran
    rw [run_settled_eq_ok] at ran ⊢
    exact hp.sound known describe ran
  · intro s a t describe ran passes
    rw [run_settled_eq_ok] at ran ⊢
    exact hp.complete describe ran passes

theorem statementsUntil_judged (hsub : JudgedNode options sub sub') (closes : Token → Bool)
    (missing : Expectation) (read : List Node) (rounds : Nat) (K : Option Names) :
    Checked (K.bind (Node.checkAll options read.reverse))
      (statementsUntil closes missing sub read rounds)
      (statementsUntil closes missing sub' read rounds)
      fun all => K.bind (Node.checkAll options all) := by
  induction rounds generalizing read with
  | zero => exact .pure rfl
  | succ rounds ih =>
    refine (Checked.tame tame_current).bind fun token => Checked.ite _ (.pure rfl) ?_
    refine Checked.ite _ .unexpected ((hsub _).bind fun next => ?_)
    rw [← bind_checkAll_reverse]
    exact ih _

theorem body_judged (hsub : JudgedNode settings.options sub sub') (construct : Construct)
    (closers : List String) :
    Judged (fun body => Node.checkAll settings.options body.statements)
      (body settings sub construct closers) (body settings.unchecked sub' construct closers) := by
  intro K
  have statements (closes : Token → Bool) (missing : Expectation) :
      Checked K (statementsUntil closes missing sub [] settings.bound)
        (statementsUntil closes missing sub' [] settings.bound)
        fun all => K.bind (Node.checkAll settings.options all) := by
    have all := statementsUntil_judged hsub closes missing [] settings.bound K
    rwa [List.reverse_nil, Node.checkAll, Option.bind_fun_some] at all
  refine (Checked.tame (tame_acceptOperator _)).bind fun _ => Checked.ite _ ?_ ?_
  · refine (statements _ _).bind fun all => ?_
    exact (Checked.tame tame_advance).bind fun _ => .pure rfl
  · exact (statements _ _).bind fun all => .pure rfl

theorem closeBody_judged (judge : List Node → Check) (body : Body) :
    Checked (K.bind (judge body.statements)) (closeBody body) (closeBody body)
      fun nodes => K.bind (judge nodes) :=
  Checked.ite _ (.pure rfl) ((Checked.tame tame_advance).bind fun _ => .pure rfl)

theorem assignment_judged (hinner : JudgedNode options inner inner') :
    JudgedNode options (assignment inner) (assignment inner') := by
  intro K
  refine (Checked.tame tame_current).bind fun token => (Checked.tame tame_advance).bind fun _ => ?_
  refine (Checked.tame (tame_expectIdentifier _)).bind fun target => ?_
  refine (Checked.tame tame_annotation?).bind fun early => ?_
  refine (Checked.tame (tame_expectOperator _ _)).bind fun _ => (hinner K).bind fun value => ?_
  refine (Checked.tame (tame_lateAnnotation? _ _)).bind fun stated => ?_
  refine (Checked.tame tame_scopes).bind fun tracker => ?_
  unfold declare
  split
  · exact .failed
  · refine (Checked.tame (tame_note _)).bind fun _ => ?_
    refine (Checked.change fun names tracker describe => describe.addVariable target _).bind
      fun _ => .pure ?_
    cases K <;> rfl

theorem functionDefinition_judged (hsub : JudgedNode settings.options sub sub')
    (balanced : ∀ s, Balanced (sub.commands s)) :
    JudgedNode settings.options (functionDefinition settings sub)
      (functionDefinition settings.unchecked sub') := by
  intro K
  refine (Checked.tame tame_advance).bind fun _ => ?_
  refine (Checked.tame (tame_expectIdentifier _)).bind fun name => ?_
  refine (Checked.tame (tame_expectOperator _ _)).bind fun _ => ?_
  refine (Checked.tame (tame_parameterList name)).bind fun parameters => ?_
  refine (Checked.tame (tame_expectOperator _ _)).bind fun _ => ?_
  refine (Checked.tame (tame_note _)).bind fun _ => ?_
  refine (Checked.change fun names tracker describe =>
    describe.addFunction name parameters).bind fun _ => ?_
  have inside := (body_judged hsub (.function name) ["ENDDEFUN"]).inFunction parameters
    ((closed_balanced settings).body balanced _ _)
  refine (inside _).bind fun body => ?_
  let judge (nodes : List Node) : Check := inScope parameters (Node.checkAll settings.options nodes)
  refine (closeBody_judged judge body).bind fun nodes => .pure ?_
  cases K <;> rfl

theorem loopBody_judged (hsub : JudgedNode settings.options sub sub') (construct : Construct) :
    Judged (Node.checkAll settings.options) (loopBody settings sub construct)
      (loopBody settings.unchecked sub' construct) := by
  intro K
  refine (Checked.inLoop (body_judged hsub _ _ K)).bind fun body => ?_
  exact closeBody_judged _ body

theorem whileLoop_judged (hinner : JudgedNode settings.options inner inner')
    (hsub : JudgedNode settings.options sub sub') :
    JudgedNode settings.options (whileLoop settings inner sub)
      (whileLoop settings.unchecked inner' sub') := by
  intro K
  refine (Checked.tame tame_advance).bind fun _ => (hinner K).bind fun condition => ?_
  refine (loopBody_judged hsub _ _).bind fun nodes => .pure ?_
  rw [Node.check, bind_andThen]

theorem repeatLoop_judged (hinner : JudgedNode settings.options inner inner')
    (hsub : JudgedNode settings.options sub sub') :
    JudgedNode settings.options (repeatLoop settings inner sub)
      (repeatLoop settings.unchecked inner' sub') := by
  intro K
  refine (Checked.tame tame_advance).bind fun _ => (hinner K).bind fun count => ?_
  refine (Checked.tame (tame_expectKeyword _ _)).bind fun _ => ?_
  refine (loopBody_judged hsub _ _).bind fun nodes => .pure ?_
  rw [Node.check, bind_andThen]

def checkBranch (options : Options) (branch : Node × Body) : Check :=
  (branch.1.check options).andThen (Node.checkAll options branch.2.statements)

def checkBranches (options : Options) (branches : List (Node × Body)) : Check :=
  inTurn (Node.checkEach options (branches.map (·.1)))
    (Node.checkBodies options (branches.map (·.2.statements)))

theorem checkBranches_concat (options : Options) (branches : List (Node × Body))
    (last : Node × Body) :
    checkBranches options (branches ++ [last]) =
      (checkBranches options branches).andThen (checkBranch options last) := by
  induction branches with
  | nil =>
    funext names
    simp [checkBranches, checkBranch, Node.checkEach, Node.checkBodies, inTurn, andThen]
  | cons first others ih =>
    have apart (branches : List (Node × Body)) : checkBranches options (first :: branches) =
        (checkBranch options first).andThen (checkBranches options branches) := rfl
    funext names
    rw [List.cons_append, apart, apart, ih, andThen, andThen, andThen, Option.bind_assoc]
    rfl

theorem branch_judged (hinner : JudgedNode settings.options inner inner')
    (hsub : JudgedNode settings.options sub sub') :
    Judged (checkBranch settings.options) (branch settings inner sub)
      (branch settings.unchecked inner' sub') := by
  intro K
  refine (hinner K).bind fun condition => (Checked.tame (tame_acceptKeyword _)).bind fun _ => ?_
  refine (body_judged hsub _ _ _).bind fun body => .pure ?_
  rw [checkBranch, bind_andThen]

theorem elseIfs_judged (hinner : JudgedNode settings.options inner inner')
    (hsub : JudgedNode settings.options sub sub') (read : List (Node × Body)) (rounds : Nat)
    (K : Option Names) :
    Checked (K.bind (checkBranches settings.options read.reverse))
      (elseIfs settings inner sub read rounds) (elseIfs settings.unchecked inner' sub' read rounds)
      fun all => K.bind (checkBranches settings.options all) := by
  induction rounds generalizing read with
  | zero => exact .pure rfl
  | succ rounds ih =>
    refine (Checked.tame tame_acceptElseIf).bind fun _ => Checked.ite _ ?_ (.pure rfl)
    refine (branch_judged hinner hsub _).bind fun next => ?_
    have more := ih (next :: read)
    rwa [List.reverse_cons, checkBranches_concat, bind_andThen] at more

theorem elseBranch?_judged (hsub : JudgedNode settings.options sub sub') :
    Judged (fun last => Node.checkBody settings.options (last.map (·.statements)))
      (elseBranch? settings sub) (elseBranch? settings.unchecked sub') := by
  intro K
  refine (Checked.tame (tame_acceptKeyword _)).bind fun _ => Checked.ite _ ?_ (.pure ?_)
  · exact (body_judged hsub _ _ K).bind fun body => .pure rfl
  · exact Option.bind_fun_some K

theorem ifStatement_judged (hinner : JudgedNode settings.options inner inner')
    (hsub : JudgedNode settings.options sub sub') :
    JudgedNode settings.options (ifStatement settings inner sub)
      (ifStatement settings.unchecked inner' sub') := by
  intro K
  refine (Checked.tame tame_advance).bind fun _ => ?_
  refine (branch_judged hinner hsub K).bind fun (condition, thenBody) => ?_
  have further := elseIfs_judged hinner hsub [] settings.bound
    (K.bind (checkBranch settings.options (condition, thenBody)))
  have nothing : checkBranches settings.options [].reverse = some := rfl
  rw [nothing, Option.bind_fun_some] at further
  refine further.bind fun others => (elseBranch?_judged hsub _).bind fun last => ?_
  refine (Checked.tame (tame_closeConditional _)).bind fun _ => .pure ?_
  rw [Node.check, bind_andThen, bind_andThen]
  rfl

theorem controlStatement_judged (hinner : JudgedNode options inner inner') (control : Control) :
    JudgedNode options (controlStatement inner control) (controlStatement inner' control) := by
  intro K
  refine (Checked.tame tame_current).bind fun word => (Checked.tame tame_advance).bind fun _ => ?_
  have value : Checked K (controlValue inner control word.line)
      (controlValue inner' control word.line) fun value =>
        K.bind (Node.checkOption options value) := by
    refine (Checked.tame tame_current).bind fun _ => Checked.ite _ ?_ (.pure ?_)
    · exact (hinner K).bind fun _ => .pure rfl
    · exact Option.bind_fun_some K
  refine value.bind fun value => (Checked.tame tame_scopes).bind fun tracker => ?_
  exact Checked.ite _ (.pure rfl) .failed

theorem moveMouse_judged (hinner : JudgedNode options inner inner') :
    JudgedNode options (moveMouse inner) (moveMouse inner') := by
  intro K
  refine (Checked.tame tame_advance).bind fun _ => ?_
  refine (Checked.tame (tame_expectKeyword _ _)).bind fun _ => ?_
  refine (Checked.tame (tame_expectKeyword _ _)).bind fun _ => ?_
  refine (Checked.tame (tame_acceptOperator _)).bind fun _ => (hinner K).bind fun x => ?_
  refine (Checked.tame (tame_expectOperator _ _)).bind fun _ => (hinner _).bind fun y => ?_
  refine (Checked.tame (tame_closeCoordinates _)).bind fun _ => .pure ?_
  rw [Node.check, bind_andThen]

theorem inputOperation_judged (operation : String) :
    JudgedNode options (inputOperation operation) (inputOperation operation) := by
  intro K
  refine (Checked.tame tame_advance).bind fun _ => ?_
  refine (Checked.tame (tame_acceptKeyword _)).bind fun _ => Checked.ite _ ?_ ?_
  · refine (Checked.tame tame_current).bind fun token => ?_
    split
    · exact (Checked.tame tame_advance).bind fun _ => .pure (Option.bind_fun_some K)
    · exact .unexpected
  · refine (Checked.tame (tame_acceptKeyword _)).bind fun _ => Checked.ite _ ?_ .unexpected
    refine (Checked.tame tame_current).bind fun token => Checked.ite _ ?_ .unexpected
    exact (Checked.tame tame_advance).bind fun _ => .pure (Option.bind_fun_some K)

theorem identifierStatement_judged (hinner : JudgedNode settings.options inner inner') :
    JudgedNode settings.options (identifierStatement settings inner)
      (identifierStatement settings.unchecked inner') := by
  intro K
  refine (Checked.tame tame_current).bind fun token => (Checked.tame tame_next?).bind fun next => ?_
  refine Checked.ite _ ?_ (Checked.ite _ ?_ .failed)
  · refine (Checked.tame tame_advance).bind fun _ => ?_
    refine (requireVariable_judged _ _).bind fun _ => (Checked.tame tame_current).bind fun _ => ?_
    exact (Checked.tame tame_advance).bind fun _ => .pure rfl
  · exact (Checked.tame tame_advance).bind fun _ => call_judged hinner _ K

theorem wordStatement_judged (hinner : JudgedNode settings.options inner inner')
    (hsub : JudgedNode settings.options sub sub') (balanced : ∀ s, Balanced (sub.commands s))
    (token : Token) (word : String) :
    JudgedNode settings.options (wordStatement settings inner sub token word)
      (wordStatement settings.unchecked inner' sub' token word) := by
  intro K
  have valued {f : Node → Node}
      (plain : ∀ node, (f node).check settings.options = node.check settings.options) :
      Checked K (do advance; let value ← inner; return f value)
        (do advance; let value ← inner'; return f value) fun node =>
          K.bind (node.check settings.options) :=
    (Checked.tame tame_advance).bind fun _ => (hinner K).bind fun value =>
      .pure (by rw [plain])
  unfold wordStatement
  split
  · exact controlStatement_judged hinner _ K
  · split
    case h_1 => exact assignment_judged hinner K
    case h_2 => exact functionDefinition_judged hsub balanced K
    case h_3 | h_4 | h_5 => exact valued fun _ => rfl
    case h_6 => exact moveMouse_judged hinner K
    case h_7 | h_8 | h_9 => exact inputOperation_judged _ K
    case h_10 => exact ifStatement_judged hinner hsub K
    case h_11 => exact whileLoop_judged hinner hsub K
    case h_12 => exact repeatLoop_judged hinner hsub K
    case h_13 => exact (Checked.tame tame_advance).bind fun _ => .pure (Option.bind_fun_some K)
    case h_14 => exact .failed

theorem unterminated_judged (hinner : JudgedNode settings.options inner inner')
    (hsub : JudgedNode settings.options sub sub') (balanced : ∀ s, Balanced (sub.commands s)) :
    JudgedNode settings.options (unterminated settings inner sub)
      (unterminated settings.unchecked inner' sub') := by
  intro K
  refine (Checked.tame tame_current).bind fun token => ?_
  split
  · refine (Checked.tame tame_current).bind fun token => ?_
    refine (Checked.tame (tame_note _)).bind fun _ => ?_
    exact wordStatement_judged hinner hsub balanced token _ K
  · exact identifierStatement_judged hinner K
  · exact Checked.ite _ (updateBefore_judged K) .unexpected
  · exact .unexpected

theorem statement_judged (settings : Settings) (levels : Nat) :
    JudgedNode settings.options (statement settings levels)
      (statement settings.unchecked levels) := by
  induction levels with
  | zero => exact fun K => (Checked.tame tame_current).bind fun _ => .failed
  | succ levels ih =>
    intro K
    refine Checked.nested ((Checked.tame (tame_acceptOperator _)).bind fun _ => ?_)
    refine Checked.ite _ (.pure (Option.bind_fun_some K)) ?_
    have plain := unterminated_judged (expression_judged settings levels 1) ih
      (statement_balanced settings levels) K
    exact plain.bind fun node => (Checked.tame (tame_acceptOperator _)).bind fun _ => .pure rfl

theorem topLevel_judged (hsub : JudgedNode options sub sub') (read : List Node) (rounds : Nat)
    (K : Option Names) :
    Checked (K.bind (Node.checkAll options read.reverse)) (topLevel sub read rounds)
      (topLevel sub' read rounds) fun all => K.bind (Node.checkAll options all) := by
  induction rounds generalizing read with
  | zero => exact .pure rfl
  | succ rounds ih =>
    refine (Checked.tame tame_current).bind fun token => Checked.ite _ (.pure rfl) ?_
    refine (Checked.settled (hsub _)).bind fun next => ?_
    rw [← bind_checkAll_reverse]
    exact ih _

theorem program_judged (settings : Settings) (levels count : Nat) :
    JudgedNode settings.options (program settings levels count)
      (program settings.unchecked levels count) := by
  intro K
  have all := topLevel_judged (statement_judged settings levels) [] settings.bound K
  rw [List.reverse_nil, Node.checkAll, Option.bind_fun_some] at all
  refine (Checked.tame (tame_note _)).bind fun _ => all.bind fun nodes => ?_
  exact (Checked.tame (tame_note _)).bind fun _ => .pure rfl

/--
Tokens are accepted under some options if and only if they are accepted without any check on names
and the tree passes these checks in a pass of its own.
-/
theorem parse_checked_iff (options : Options) (tokens : List Token) (ast : Node) :
    (parse options tokens).result = .ok ast ↔
      (parse .none tokens).result = .ok ast ∧ ast.passes options := by
  let settings := settingsFor defaultLimit options tokens
  let first := start .initial tokens
  have judged := program_judged settings defaultLimit (Cursor.complete tokens).length
    (some .start)
  constructor
  · intro ok
    obtain ⟨t, ran⟩ : ∃ t, (reader defaultLimit options tokens).run first = (.ok ast, t) :=
      ⟨_, Prod.ext ok rfl⟩
    obtain ⟨ran', after, passes, -⟩ := judged.sound rfl Names.Describe.initial ran
    have ok' : (parse .none tokens).result = .ok ast := congrArg Prod.fst ran'
    exact ⟨ok', Option.isSome_iff_exists.2 ⟨after, passes⟩⟩
  · rintro ⟨ok', passes⟩
    obtain ⟨t, ran'⟩ : ∃ t, (reader defaultLimit .none tokens).run first = (.ok ast, t) :=
      ⟨_, Prod.ext ok' rfl⟩
    have initial : ∀ names, some Names.start = some names → names.Describe first.scopes := by
      rintro names ⟨⟩
      exact Names.Describe.initial
    obtain ⟨-, ran⟩ := judged.complete initial ran' passes
    exact congrArg Prod.fst ran

end DeskScript.Parser
