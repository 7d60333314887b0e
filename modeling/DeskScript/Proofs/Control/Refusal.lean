import DeskScript.Proofs.Control.Placement
import DeskScript.Proofs.Grammar.Program
import DeskScript.Proofs.Parser.Tame

/-!
Control statements that are refused for where they stand. `Grammar.Leads` says which constructs
are open after some tokens of a script that need not be complete: each step passes a whole
statement or branch, or goes into a body. A run that fails because of a control statement stopped
at a word to which the tokens before it lead, outside every construct that the word can leave.
-/

namespace DeskScript

namespace Grammar

inductive Place where
  | statement (site : Site)
  | branches (site : Site)

inductive Opening : List Token → Prop where
  | missing : Opening []
  | stated {token : Token} : token.isOperator "\x7b" → Opening [token]

inductive Guard : List Token → (follow : Token) → Prop where
  | guard {tokens words opening : List Token} {follow : Token} {condition : Node} :
    Term.Derives tokens ((words ++ opening).headD follow) (.expression 1 condition) →
    Then words → Opening opening → Guard (tokens ++ (words ++ opening)) follow

inductive Step : Place → List Token → (follow : Token) → Place → Prop where
  | statement {site : Site} {tokens : List Token} {follow : Token} {node : Node} :
    Phrase.Derives site tokens follow (.statement node) →
    Step (.statement site) tokens follow (.statement (site.after node.assignments))
  | whileBody {site : Site} {word follow : Token} {tokens opening : List Token} {node : Node} :
    word.isKeyword "WHILE" → Term.Derives tokens (opening.headD follow) (.expression 1 node) →
    Opening opening →
    Step (.statement site) (word :: (tokens ++ opening)) follow (.statement site.inLoop)
  | repeatBody {site : Site} {word times follow : Token} {tokens opening : List Token}
      {node : Node} :
    word.isKeyword "REPEAT" → Term.Derives tokens times (.expression 1 node) →
    times.isKeyword "TIMES" → Opening opening →
    Step (.statement site) (word :: (tokens ++ times :: opening)) follow (.statement site.inLoop)
  | functionBody {site : Site} {word name first last follow : Token}
      {tokens opening : List Token} {parameters : List String} :
    word.isKeyword "DEFUN" → name.kind = .identifier → first.isOperator "(" →
    (tokens = [] ∧ parameters = []) ∨ Parameters tokens parameters → last.isOperator ")" →
    Opening opening →
    Step (.statement site) (word :: name :: first :: (tokens ++ last :: opening)) follow
      (.statement site.inFunction)
  | thenBody {site : Site} {word follow : Token} {tokens : List Token} :
    word.isKeyword "IF" → Guard tokens follow →
    Step (.statement site) (word :: tokens) follow (.statement site)
  | firstBranch {site : Site} {word follow : Token} {tokens : List Token} {braced : Bool}
      {condition : Node} {nodes : List Node} :
    word.isKeyword "IF" → Phrase.Derives site tokens follow (.branch braced condition nodes) →
    Step (.statement site) (word :: tokens) follow
      (.branches (site.after (Node.assignmentsOf nodes)))
  | elseIfBody {site : Site} {words tokens : List Token} {follow : Token} :
    ElseIf words → Guard tokens follow →
    Step (.branches site) (words ++ tokens) follow (.statement site)
  | nextBranch {site : Site} {words tokens : List Token} {follow : Token} {braced : Bool}
      {condition : Node} {nodes : List Node} :
    ElseIf words → Phrase.Derives site tokens follow (.branch braced condition nodes) →
    Step (.branches site) (words ++ tokens) follow
      (.branches (site.after (Node.assignmentsOf nodes)))
  | elseBody {site : Site} {word follow : Token} {opening : List Token} :
    word.isKeyword "ELSE" →
    ((opening.headD follow).isKeyword "IF" && (opening.headD follow).line == word.line) = false →
    Opening opening → Step (.branches site) (word :: opening) follow (.statement site)

/-- The tokens before `follow` lead from one place to another. -/
inductive Leads : Place → List Token → (follow : Token) → Place → Prop where
  | here {place : Place} {follow : Token} : Leads place [] follow place
  | step {place middle target : Place} {first rest : List Token} {follow : Token} :
    Step place first (rest.headD follow) middle → Leads middle rest follow target →
    Leads place (first ++ rest) follow target

theorem Step.leads {place target : Place} {tokens : List Token} {follow : Token}
    (step : Step place tokens follow target) : Leads place tokens follow target := by
  have leads : Leads place (tokens ++ []) follow target := .step step .here
  rwa [List.append_nil] at leads

theorem Leads.trans {place middle target : Place} {first second : List Token} {follow : Token}
    (leads : Leads place first (second.headD follow) middle)
    (leads' : Leads middle second follow target) :
    Leads place (first ++ second) follow target := by
  generalize next : second.headD follow = token at leads
  induction leads with
  | here => exact leads'
  | @step _ _ _ start rest _ step _ ih =>
    rw [List.append_assoc]
    refine .step ?_ (ih leads' next)
    cases rest with
    | nil => exact next ▸ step
    | cons => exact step

theorem leads_elseIfs {branches : List (Node × List Node)} {site : Site} {tokens : List Token}
    {follow : Token} {braced : Bool}
    (derives : Phrase.Derives site tokens follow (.elseIfs braced branches)) :
    Leads (.branches site) tokens follow
      (.branches (site.after (Node.assignmentsOfAll (branches.map (·.2))))) := by
  induction branches generalizing site tokens braced with
  | nil =>
    cases derives
    rw [List.map_nil, Node.assignmentsOfAll, Parser.after_nil]
    exact .here
  | cons branch others ih =>
    cases derives with
    | elseIf words first rest =>
      have leads := ih rest
      rw [Parser.after_after] at leads
      rw [← List.append_assoc]
      exact .step (.nextBranch words first) leads

end Grammar

namespace Parser

open Grammar

variable {α β : Type} {settings : Settings} {inner sub : Parser Node} {p : Parser α}
variable {s t : State} {d : Diagnostic} {site : Site} {place : Place} {bound : Nat}

theorem run_bind_eq_error {f : α → Parser β} :
    (p >>= f).run s = (.error d, t) ↔
      p.run s = (.error d, t) ∨ ∃ a u, p.run s = (.ok a, u) ∧ (f a).run u = (.error d, t) := by
  rw [run_bind]
  rcases p.run s with ⟨e | a, u⟩
  · simp
  · constructor
    · exact fun failed => .inr ⟨a, u, rfl, failed⟩
    · rintro (first | ⟨_, _, first, second⟩)
      · simp at first
      · cases first
        exact second

theorem run_between_eq_error {before after : List Command}
    (h : (between before p after).run s = (.error d, t)) :
    ∃ u, p.run (Command.applyAll before s) = (.error d, u) := by
  rw [run_between, Prod.mk.injEq] at h
  exact ⟨_, Prod.ext h.1 rfl⟩

def Plain (p : Parser α) : Prop :=
  ∀ s d t, p.run s = (.error d, t) → d.Ordinary

theorem Tame.plain (tame : Tame p) : Plain p :=
  fun _ _ _ h => tame.ordinary h

theorem Plain.bind {f : α → Parser β} (hp : Plain p) (hf : ∀ a, Plain (f a)) :
    Plain (p >>= f) := by
  intro s d t h
  rcases run_bind_eq_error.1 h with failed | ⟨a, u, -, failed⟩
  · exact hp s d t failed
  · exact hf a u d t failed

/-- A failure is ordinary, or it is for a control statement to which the tokens lead and that
stands outside every construct that it can leave. -/
def Refused (place : Place) (c : Cursor) (d : Diagnostic) : Prop :=
  d.Ordinary ∨ ∃ before e site control value, c.Reads before e ∧
    Leads place before e.current (.statement site) ∧ e.current.isKeyword control.word = true ∧
    control.context ∉ site.contexts ∧ d = ⟨.misplaced control value, e.current.line⟩

theorem Refused.along {middle : Place} {c e : Cursor} {first : List Token}
    (refused : Refused middle e d) (reads : c.Reads first e)
    (leads : Leads place first e.current middle) : Refused place c d := by
  rcases refused with ordinary | ⟨before, last, site, control, value, reads', leads', rest⟩
  · exact .inl ordinary
  · rw [reads'.current] at leads
    exact .inr ⟨first ++ before, last, site, control, value, reads.trans reads',
      leads.trans leads', rest⟩

theorem Refused.after {middle : Place} {c e : Cursor} {first : List Token}
    (refused : Refused middle e d) (reads : c.Reads first e)
    (step : Step place first e.current middle) : Refused place c d :=
  refused.along reads step.leads

def RefusesStatement (bound : Nat) (p : Parser Node) : Prop :=
  ∀ site s d t, s.cursor.remaining.length ≤ bound → Recorded site s.scopes →
    p.run s = (.error d, t) → Refused (.statement site) s.cursor d

theorem statementsUntil_refused (hsub : ReadsStatement bound sub)
    (refuses : RefusesStatement bound sub) {closes : Token → Bool} {missing : Expectation}
    {read : List Node} {rounds : Nat}
    (h : (statementsUntil closes missing sub read rounds).run s = (.error d, t))
    (enough : s.cursor.remaining.length ≤ bound) (recorded : Recorded site s.scopes) :
    Refused (.statement site) s.cursor d := by
  induction rounds generalizing s read site with
  | zero => simp [statementsUntil] at h
  | succ rounds ih =>
    rw [statementsUntil, run_bind_of_ok (run_current s)] at h
    split at h
    next => simp at h
    next =>
      split at h
      next => exact .inl ((tame_unexpected missing).ordinary h)
      next =>
        rcases run_bind_eq_error.1 h with failed | ⟨node, u, ran, h⟩
        · exact refuses site s d t enough recorded failed
        · obtain ⟨first, reads, derives, recorded'⟩ := hsub site s node u enough recorded ran
          exact (ih h (reads.within enough) recorded').after reads (.statement derives)

theorem body_refused (hsub : ReadsStatement settings.bound sub)
    (refuses : RefusesStatement settings.bound sub) {construct : Construct}
    {closers : List String}
    (h : (body settings sub construct closers).run s = (.error d, t))
    (enough : s.cursor.remaining.length ≤ settings.bound) (recorded : Recorded site s.scopes) :
    ∃ opening c, Opening opening ∧ s.cursor.Reads opening c ∧ Refused (.statement site) c d := by
  rw [body, run_ifOperator] at h
  split at h
  next brace =>
    have opened := Cursor.reads_operator brace
    rcases run_bind_eq_error.1 h with failed | ⟨nodes, u, -, h⟩
    · have refused :=
        statementsUntil_refused hsub refuses failed (opened.within enough) recorded
      exact ⟨_, _, .stated brace, opened, refused⟩
    · simp [run_bind_of_ok (run_advance u)] at h
  next =>
    rcases run_bind_eq_error.1 h with failed | ⟨nodes, u, -, h⟩
    · exact ⟨[], _, .missing, .refl _, statementsUntil_refused hsub refuses failed enough recorded⟩
    · simp at h

theorem closeBody_ne_error {body : Body} : (closeBody body).run s ≠ (.error d, t) := by
  unfold closeBody
  split
  · simp
  · simp [run_bind_of_ok (run_advance s)]

theorem loopBody_refused (hsub : ReadsStatement settings.bound sub)
    (refuses : RefusesStatement settings.bound sub) {construct : Construct}
    (h : (loopBody settings sub construct).run s = (.error d, t))
    (enough : s.cursor.remaining.length ≤ settings.bound) (recorded : Recorded site s.scopes) :
    ∃ opening c, Opening opening ∧ s.cursor.Reads opening c ∧
      Refused (.statement site.inLoop) c d := by
  rcases run_bind_eq_error.1 h with failed | ⟨body, u, -, failed⟩
  · obtain ⟨u, inside⟩ := run_between_eq_error failed
    exact body_refused (s := Command.applyAll [.scope (.push .loop)] s) hsub refuses inside enough
      recorded.push
  · exact absurd failed closeBody_ne_error

theorem functionBody_refused (hsub : ReadsStatement settings.bound sub)
    (refuses : RefusesStatement settings.bound sub) {names closers : List String}
    {construct : Construct}
    (h : (between (enterFunction names) (body settings sub construct closers) leaveFunction).run s =
      (.error d, t))
    (enough : s.cursor.remaining.length ≤ settings.bound) (recorded : Recorded site s.scopes) :
    ∃ opening c, Opening opening ∧ s.cursor.Reads opening c ∧
      Refused (.statement site.inFunction) c d := by
  obtain ⟨u, inside⟩ := run_between_eq_error h
  have place : (Command.applyAll (enterFunction names) s).cursor = s.cursor := by
    obtain ⟨tracker, entered⟩ := enterFunction_eq names s
    rw [entered]
  obtain ⟨opening, c, opens, reads, refused⟩ :=
    body_refused hsub refuses inside (by rwa [place]) (recorded.enterFunction names)
  rw [place] at reads
  exact ⟨opening, c, opens, reads, refused⟩

theorem whileLoop_refused (hinner : ReadsExpression settings.bound 1 inner) (tame : Tame inner)
    (hsub : ReadsStatement settings.bound sub) (refuses : RefusesStatement settings.bound sub)
    (h : (whileLoop settings inner sub).run s = (.error d, t))
    (word : s.cursor.current.isKeyword "WHILE" = true)
    (enough : s.cursor.remaining.length ≤ settings.bound) (recorded : Recorded site s.scopes) :
    Refused (.statement site) s.cursor d := by
  have passed := Cursor.reads_keyword word
  rw [whileLoop, run_bind_of_ok (run_advance s)] at h
  rcases run_bind_eq_error.1 h with failed | ⟨condition, u, ran, h⟩
  · exact .inl (tame.ordinary failed)
  · obtain ⟨tokens, reads, ⟨derives, -⟩, scopes⟩ :=
      hinner s.advance condition u (passed.within enough) ran
    have reads' := passed.trans reads
    rcases run_bind_eq_error.1 h with failed | ⟨nodes, v, -, failed⟩
    · obtain ⟨opening, c, opens, readsOpening, refused⟩ := loopBody_refused hsub refuses failed
        (reads'.within enough) (by rw [scopes]; exact recorded)
      rw [readsOpening.current] at derives
      exact refused.after (reads'.trans readsOpening) (.whileBody word derives opens)
    · simp at failed

theorem repeatLoop_refused (hinner : ReadsExpression settings.bound 1 inner) (tame : Tame inner)
    (hsub : ReadsStatement settings.bound sub) (refuses : RefusesStatement settings.bound sub)
    (h : (repeatLoop settings inner sub).run s = (.error d, t))
    (word : s.cursor.current.isKeyword "REPEAT" = true)
    (enough : s.cursor.remaining.length ≤ settings.bound) (recorded : Recorded site s.scopes) :
    Refused (.statement site) s.cursor d := by
  have passed := Cursor.reads_keyword word
  rw [repeatLoop, run_bind_of_ok (run_advance s)] at h
  rcases run_bind_eq_error.1 h with failed | ⟨count, u, ran, h⟩
  · exact .inl (tame.ordinary failed)
  · obtain ⟨tokens, reads, ⟨derives, -⟩, scopes⟩ :=
      hinner s.advance count u (passed.within enough) ran
    rcases run_bind_eq_error.1 h with failed | ⟨_, v, ran, h⟩
    · exact .inl ((tame_expectKeyword _ _).ordinary failed)
    · obtain ⟨times, rfl⟩ := run_expectKeyword_eq_ok.1 ran
      have reads' := passed.trans (reads.trans (Cursor.reads_keyword times))
      rcases run_bind_eq_error.1 h with failed | ⟨nodes, v, -, failed⟩
      · obtain ⟨opening, c, opens, readsOpening, refused⟩ := loopBody_refused hsub refuses failed
          (reads'.within enough) (by rw [State.advance_scopes, scopes]; exact recorded)
        have step : Step (.statement site) _ c.current _ := .repeatBody word derives times opens
        exact refused.after (reads'.trans readsOpening) (by simpa using step)
      · simp at failed

theorem functionDefinition_refused (hsub : ReadsStatement settings.bound sub)
    (refuses : RefusesStatement settings.bound sub)
    (h : (functionDefinition settings sub).run s = (.error d, t))
    (word : s.cursor.current.isKeyword "DEFUN" = true)
    (enough : s.cursor.remaining.length ≤ settings.bound) (recorded : Recorded site s.scopes) :
    Refused (.statement site) s.cursor d := by
  -- only a refusal in the body can be for a control statement; its heading leads there
  rw [functionDefinition, run_bind_of_ok (run_advance s)] at h
  rcases run_bind_eq_error.1 h with failed | ⟨name, u, ran, h⟩
  · exact .inl ((tame_expectIdentifier _).ordinary failed)
  obtain ⟨identifier, rfl, rfl⟩ := run_expectIdentifier_eq_ok.1 ran
  rcases run_bind_eq_error.1 h with failed | ⟨_, u, ran, h⟩
  · exact .inl ((tame_expectOperator _ _).ordinary failed)
  obtain ⟨first, rfl⟩ := run_expectOperator_eq_ok.1 ran
  have passed := (Cursor.reads_keyword word).trans
    ((Cursor.reads_identifier identifier).trans (Cursor.reads_operator first))
  rcases run_bind_eq_error.1 h with failed | ⟨names, u, ran, h⟩
  · exact .inl ((tame_parameterList _).ordinary failed)
  obtain ⟨tokens, readsNames, ⟨parameters, -⟩, scopes⟩ :=
    parameterList_sound _ names u (passed.within enough) ran
  rcases run_bind_eq_error.1 h with failed | ⟨_, v, ran, h⟩
  · exact .inl ((tame_expectOperator _ _).ordinary failed)
  obtain ⟨last, rfl⟩ := run_expectOperator_eq_ok.1 ran
  have reads := passed.trans (readsNames.trans (Cursor.reads_operator last))
  rw [run_bind_of_ok (run_note _ _), run_bind_of_ok (run_change _ _)] at h
  rcases run_bind_eq_error.1 h with failed | ⟨body, w, -, h⟩
  · have declared :
        Recorded site (u.scopes.declareFunction s.advance.cursor.current.text names) := by
      rw [scopes]
      exact recorded.declareFunction _ _
    obtain ⟨opening, c, opens, readsOpening, refused⟩ :=
      functionBody_refused hsub refuses failed (reads.within enough) declared
    have step : Step (.statement site) _ c.current _ :=
      .functionBody word identifier first parameters last opens
    exact refused.after (reads.trans readsOpening) (by simpa using step)
  · rcases run_bind_eq_error.1 h with failed | ⟨nodes, v, -, failed⟩
    · exact absurd failed closeBody_ne_error
    · simp at failed

theorem branch_refused (hinner : ReadsExpression settings.bound 1 inner) (tame : Tame inner)
    (hsub : ReadsStatement settings.bound sub) (refuses : RefusesStatement settings.bound sub)
    (h : (branch settings inner sub).run s = (.error d, t))
    (enough : s.cursor.remaining.length ≤ settings.bound) (recorded : Recorded site s.scopes) :
    d.Ordinary ∨ ∃ tokens c, Guard tokens c.current ∧ s.cursor.Reads tokens c ∧
      Refused (.statement site) c d := by
  rcases run_bind_eq_error.1 h with failed | ⟨condition, u, ran, h⟩
  · exact .inl (tame.ordinary failed)
  obtain ⟨tokens, reads, ⟨derives, -⟩, scopes⟩ := hinner s condition u enough ran
  rw [run_bind_of_ok (run_acceptKeyword _ u)] at h
  rcases run_bind_eq_error.1 h with failed | ⟨body, v, -, failed⟩
  · have ⟨words, readsWords, hwords, same⟩ : ∃ words,
        u.cursor.Reads words (if u.cursor.current.isKeyword "THEN" then u.advance else u).cursor ∧
        Then words ∧
        (if u.cursor.current.isKeyword "THEN" then u.advance else u).scopes = u.scopes := by
      split
      next word => exact ⟨_, Cursor.reads_keyword word, .stated word, rfl⟩
      next => exact ⟨[], .refl _, .missing, rfl⟩
    obtain ⟨opening, c, opens, readsOpening, refused⟩ := body_refused hsub refuses failed
      ((reads.trans readsWords).within enough) (by rw [same, scopes]; exact recorded)
    rw [(readsWords.trans readsOpening).current] at derives
    exact .inr ⟨_, c, .guard derives hwords opens,
      reads.trans (readsWords.trans readsOpening), refused⟩
  · simp at failed

theorem elseIfs_refused (hinner : ReadsExpression settings.bound 1 inner) (tame : Tame inner)
    (hsub : ReadsStatement settings.bound sub) (refuses : RefusesStatement settings.bound sub)
    {read : List (Node × Body)} {rounds : Nat}
    (h : (elseIfs settings inner sub read rounds).run s = (.error d, t))
    (enough : s.cursor.remaining.length ≤ settings.bound) (recorded : Recorded site s.scopes) :
    Refused (.branches site) s.cursor d := by
  induction rounds generalizing s read site with
  | zero => simp [elseIfs] at h
  | succ rounds ih =>
    rw [elseIfs] at h
    rcases run_bind_eq_error.1 h with failed | ⟨found, u, ran, h⟩
    · exact .inl (tame_acceptElseIf.ordinary failed)
    cases found with
    | false => simp at h
    | true =>
      rw [if_pos rfl] at h
      obtain ⟨words, readsWords, elseIf, scopes⟩ := acceptElseIf_of_true ran
      have recordedThere : Recorded site u.scopes := scopes ▸ recorded
      -- this branch is refused, or it leads to the ones after it
      rcases run_bind_eq_error.1 h with failed | ⟨⟨condition, body⟩, v, ran, h⟩
      · rcases branch_refused hinner tame hsub refuses failed (readsWords.within enough)
          recordedThere with ordinary | ⟨tokens, c, guard, reads, refused⟩
        · exact .inl ordinary
        · exact refused.after (readsWords.trans reads) (.elseIfBody elseIf guard)
      · obtain ⟨first, reads, derives, recorded'⟩ :=
          branch_derived hinner hsub ran (readsWords.within enough) recordedThere
        have reads' := readsWords.trans reads
        exact (ih h (reads'.within enough) recorded').after reads' (.nextBranch elseIf derives)

theorem elseBranch?_refused (hsub : ReadsStatement settings.bound sub)
    (refuses : RefusesStatement settings.bound sub)
    (h : (elseBranch? settings sub).run s = (.error d, t)) (alone : ElseAlone s)
    (enough : s.cursor.remaining.length ≤ settings.bound) (recorded : Recorded site s.scopes) :
    Refused (.branches site) s.cursor d := by
  rw [elseBranch?, run_ifKeyword] at h
  split at h
  next word =>
    have passed := Cursor.reads_keyword word
    rcases run_bind_eq_error.1 h with failed | ⟨body, u, -, failed⟩
    · obtain ⟨opening, c, opens, reads, refused⟩ :=
        body_refused hsub refuses failed (passed.within enough) recorded
      have apart := alone word
      rw [← State.advance_cursor, reads.current] at apart
      exact refused.after (passed.trans reads) (.elseBody word apart opens)
    · simp at failed
  next => simp at h

theorem ifStatement_refused (hinner : ReadsExpression settings.bound 1 inner) (tame : Tame inner)
    (hsub : ReadsStatement settings.bound sub) (refuses : RefusesStatement settings.bound sub)
    (h : (ifStatement settings inner sub).run s = (.error d, t))
    (word : s.cursor.current.isKeyword "IF" = true)
    (enough : s.cursor.remaining.length ≤ settings.bound) (recorded : Recorded site s.scopes) :
    Refused (.statement site) s.cursor d := by
  -- each part that is read leads to the next one, up to the one that is refused
  have passed := Cursor.reads_keyword word
  rw [ifStatement, run_bind_of_ok (run_advance s)] at h
  rcases run_bind_eq_error.1 h with failed | ⟨⟨condition, thenBody⟩, u, ran, h⟩
  · rcases branch_refused hinner tame hsub refuses failed (passed.within enough) recorded with
      ordinary | ⟨tokens, c, guard, reads, refused⟩
    · exact .inl ordinary
    · exact refused.after (passed.trans reads) (.thenBody word guard)
  obtain ⟨first, readsFirst, derivesFirst, afterFirst⟩ :=
    branch_derived hinner hsub ran (passed.within enough) recorded
  have reads := passed.trans readsFirst
  have step := Step.firstBranch word derivesFirst
  rcases run_bind_eq_error.1 h with failed | ⟨others, v, ran, h⟩
  · have refused :=
      elseIfs_refused hinner tame hsub refuses failed (reads.within enough) afterFirst
    exact refused.after reads step
  obtain ⟨branches, -, alone, further, readsFurther, derivesFurther, afterFurther⟩ :=
    elseIfs_derived hinner hsub ran (reads.within enough) (Nat.le_refl _) afterFirst
  rcases run_bind_eq_error.1 h with failed | ⟨last, w, ran, h⟩
  · have refused := elseBranch?_refused hsub refuses failed alone
      ((reads.trans readsFurther).within enough) afterFurther
    have leads := leads_elseIfs derivesFurther
    rw [List.map_map] at leads
    exact (refused.along readsFurther leads).after reads step
  rcases run_bind_eq_error.1 h with failed | ⟨_, x, -, failed⟩
  · exact .inl ((tame_closeConditional _).ordinary failed)
  · simp at failed

theorem controlStatement_refused (tame : Tame inner) {control : Control}
    (h : (controlStatement inner control).run s = (.error d, t))
    (word : s.cursor.current.isKeyword control.word = true) (recorded : Recorded site s.scopes) :
    Refused (.statement site) s.cursor d := by
  have tame_value (line : Nat) : Tame (controlValue inner control line) :=
    tame_current.bind fun _ => Tame.ite _ (tame.bind fun _ => tame_pure _) (tame_pure _)
  rw [controlStatement, run_bind_of_ok (run_current s)] at h
  dsimp only at h
  rw [run_bind_of_ok (run_advance s)] at h
  rcases run_bind_eq_error.1 h with failed | ⟨value, u, ran, h⟩
  · exact .inl ((tame_value _).ordinary failed)
  have scopes := (tame_value s.cursor.current.line).scopes s.advance
  rw [ran] at scopes
  rw [run_bind_of_ok (run_scopes u)] at h
  split at h
  next => simp at h
  next outside =>
    obtain ⟨rfl, -⟩ : ⟨.misplaced control value, s.cursor.current.line⟩ = d ∧ u = t := by
      simpa using h
    refine .inr ⟨[], s.cursor, site, control, value, .refl _, .here, word, ?_, rfl⟩
    rwa [Tracker.inside, List.contains_iff_mem, scopes, State.advance_scopes,
      recorded.contexts] at outside

theorem plain_assignment (tame : Tame inner) : Plain (assignment inner) := by
  have plain_declare (target : String) (value : Node) (type : Option String) (line : Nat) :
      Plain (declare target value type line) := by
    intro s d t h
    unfold declare at h
    split at h
    next expected _ =>
      have mismatch : Tame (fail (.typeMismatch value.kind.label target expected) line :
        Parser Node) := trivial
      exact mismatch.ordinary h
    · simp [run_bind_of_ok (run_note _ _), run_bind_of_ok (run_change _ _)] at h
  refine tame_current.plain.bind fun _ => tame_advance.plain.bind fun _ => ?_
  refine (tame_expectIdentifier _).plain.bind fun _ => tame_annotation?.plain.bind fun _ => ?_
  refine (tame_expectOperator _ _).plain.bind fun _ => tame.plain.bind fun _ => ?_
  refine (tame_lateAnnotation? _ _).plain.bind fun _ => tame_scopes.plain.bind fun _ => ?_
  exact plain_declare _ _ _ _

theorem tame_moveMouse (tame : Tame inner) : Tame (moveMouse inner) := by
  refine tame_advance.bind fun _ => (tame_expectKeyword _ _).bind fun _ => ?_
  refine (tame_expectKeyword _ _).bind fun _ => (tame_acceptOperator _).bind fun _ => ?_
  refine tame.bind fun _ => (tame_expectOperator _ _).bind fun _ => tame.bind fun _ => ?_
  exact (tame_closeCoordinates _).bind fun _ => tame_pure _

theorem tame_identifierStatement (tame : Tame inner) :
    Tame (identifierStatement settings inner) := by
  refine tame_current.bind fun token => tame_next?.bind fun next => Tame.ite _ ?_ ?_
  · refine tame_advance.bind fun _ => (tame_requireVariable _).bind fun _ => ?_
    exact tame_current.bind fun _ => tame_advance.bind fun _ => tame_pure _
  · exact Tame.ite _ (tame_advance.bind fun _ => tame_call tame _) trivial

theorem wordStatement_refused (hinner : ReadsExpression settings.bound 1 inner)
    (tame : Tame inner) (hsub : ReadsStatement settings.bound sub)
    (refuses : RefusesStatement settings.bound sub) {token : Token}
    (h : (wordStatement settings inner sub token (Text.upper s.cursor.current.text)).run s =
      (.error d, t))
    (kind : s.cursor.current.kind = .keyword)
    (enough : s.cursor.remaining.length ≤ settings.bound) (recorded : Recorded site s.scopes) :
    Refused (.statement site) s.cursor d := by
  have tame_valued (f : Node → Node) : Tame (do advance; let value ← inner; return f value) :=
    tame_advance.bind fun _ => tame.bind fun _ => tame_pure _
  unfold wordStatement at h
  split at h
  next control hcontrol =>
    exact controlStatement_refused tame h
      (keyword_of_word kind (word_of_ofWord? hcontrol) (upper_control control)) recorded
  next =>
    split at h
    case h_1 => exact .inl (plain_assignment tame _ _ _ h)
    case h_2 word =>
      exact functionDefinition_refused hsub refuses h (keyword_of_word kind word (by decide)) enough
        recorded
    case h_3 | h_4 | h_5 => exact .inl ((tame_valued _).ordinary h)
    case h_6 => exact .inl ((tame_moveMouse tame).ordinary h)
    case h_7 | h_8 | h_9 => exact .inl ((tame_inputOperation _).ordinary h)
    case h_10 word =>
      exact ifStatement_refused hinner tame hsub refuses h (keyword_of_word kind word (by decide))
        enough recorded
    case h_11 word =>
      exact whileLoop_refused hinner tame hsub refuses h (keyword_of_word kind word (by decide))
        enough recorded
    case h_12 word =>
      exact repeatLoop_refused hinner tame hsub refuses h (keyword_of_word kind word (by decide))
        enough recorded
    case h_13 => simp [run_bind_of_ok (run_advance _)] at h
    case h_14 =>
      have unknown : Tame (fail (.unexpectedKeyword token.text) token.line : Parser Node) := trivial
      exact .inl (unknown.ordinary h)

theorem unterminated_refused (hinner : ReadsExpression settings.bound 1 inner)
    (tame : Tame inner) (hsub : ReadsStatement settings.bound sub)
    (refuses : RefusesStatement settings.bound sub)
    (h : (unterminated settings inner sub).run s = (.error d, t))
    (enough : s.cursor.remaining.length ≤ settings.bound) (recorded : Recorded site s.scopes) :
    Refused (.statement site) s.cursor d := by
  rw [unterminated, run_bind_of_ok (run_current s)] at h
  split at h
  next kind =>
    rw [keywordStatement, run_bind_of_ok (run_current s)] at h
    dsimp only at h
    rw [run_bind_of_ok (run_note _ s)] at h
    exact wordStatement_refused
      (s := ⟨s.cursor, s.depth, s.scopes,
        .statement (Text.upper s.cursor.current.text) s.cursor.current.line :: s.journal⟩)
      hinner tame hsub refuses h kind enough recorded
  next => exact .inl ((tame_identifierStatement tame).ordinary h)
  next =>
    split at h
    next => exact .inl (tame_updateBefore.ordinary h)
    next => exact .inl ((tame_unexpected _).ordinary h)
  next => exact .inl ((tame_unexpected _).ordinary h)

theorem run_nested_eq_error (h : (nested settings p).run s = (.error d, t)) :
    d.Ordinary ∨ ∃ u, p.run (Command.deepen.apply s) = (.error d, u) := by
  rw [run_nested] at h
  split at h
  · have tooDeep : Tame (tooDeep settings : Parser α) := fun _ => trivial
    exact .inl (tooDeep.ordinary h)
  · exact .inr (run_between_eq_error h)

theorem statement_refused (settings : Settings) (levels : Nat) :
    RefusesStatement settings.bound (statement settings levels) := by
  induction levels with
  | zero =>
    intro site s d t _ _ h
    have tooDeep : Tame (tooDeep settings : Parser Node) := fun _ => trivial
    exact .inl (tooDeep.ordinary h)
  | succ levels ih =>
    intro site s d t enough recorded h
    rcases run_nested_eq_error h with ordinary | ⟨u, inside⟩
    · exact .inl ordinary
    rw [terminated, run_ifOperator] at inside
    split at inside
    next => simp at inside
    next =>
      rcases run_bind_eq_error.1 inside with failed | ⟨node, v, -, failed⟩
      · exact unterminated_refused (s := Command.deepen.apply s)
          (expression_sound settings (by decide)) (tame_expression settings levels 1)
          (statement_derived settings levels) ih failed enough recorded
      · rw [run_bind_of_ok (run_acceptOperator _ v)] at failed
        simp at failed

end Parser

end DeskScript
