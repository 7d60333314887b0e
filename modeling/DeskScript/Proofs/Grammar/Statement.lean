import DeskScript.Proofs.Grammar.Declaration

/-!
Every statement that is read is one of the grammar. A body takes at most as many rounds as there
are tokens, because a statement is never empty, so the bound on rounds never cuts it short.
-/

namespace DeskScript.Parser

open Grammar

variable {α : Type} {settings : Settings} {inner sub : Parser Node} {s t : State} {bound : Nat}
variable {site : Site}

theorem call_ne_nil {tokens : List Token} {follow : Token} {node : Node}
    (h : Term.Derives tokens follow (.call node)) : tokens ≠ [] := by
  cases h <;> simp

theorem simple_ne_nil {tokens : List Token} {follow : Token} {node : Node}
    (h : Phrase.Derives site tokens follow (.simple node)) : tokens ≠ [] := by
  cases h
  case call h => exact call_ne_nil h
  all_goals simp

theorem statement_ne_nil {tokens : List Token} {follow : Token} {node : Node}
    (h : Phrase.Derives site tokens follow (.statement node)) : tokens ≠ [] := by
  cases h with
  | empty => simp
  | ended => simp
  | unended h => exact simple_ne_nil h

def ReadsStatement (bound : Nat) (p : Parser Node) : Prop :=
  ∀ site s node t, s.cursor.remaining.length ≤ bound → Recorded site s.scopes →
    p.run s = (.ok node, t) → Makes site s t (.statement node) node.assignments

theorem statementsUntil_derived (hsub : ReadsStatement bound sub) {closes : Token → Bool}
    {missing : Expectation} {read all : List Node} {rounds : Nat}
    (h : (statementsUntil closes missing sub read rounds).run s = (.ok all, t))
    (enough : s.cursor.remaining.length ≤ rounds) (le : rounds ≤ bound)
    (recorded : Recorded site s.scopes) :
    ∃ tokens nodes, all = read.reverse ++ nodes ∧ s.cursor.Reads tokens t.cursor ∧
      Phrase.Derives site tokens t.cursor.current (.statements nodes) ∧
      Recorded (site.after (Node.assignmentsOf nodes)) t.scopes ∧
      closes t.cursor.current = true := by
  induction rounds generalizing s read site with
  | zero => exact absurd enough (by simp [Cursor.remaining])
  | succ rounds ih =>
    rw [statementsUntil, run_bind_of_ok (run_current s)] at h
    split at h
    next stops =>
      obtain ⟨rfl, rfl⟩ := run_pure_eq_ok.1 h
      exact ⟨[], [], by simp, .refl _, .nil, by simpa [Node.assignmentsOf] using recorded, stops⟩
    next =>
      split at h
      next => simp at h
      next =>
        rw [run_bind_eq_ok] at h
        obtain ⟨node, u, hnode, h⟩ := h
        obtain ⟨first, reads, derives, recorded'⟩ :=
          hsub site s node u (Nat.le_trans enough le) recorded hnode
        -- a statement has a token at least, so the rounds left suffice for the tokens left
        have shorter := reads.length
        have progress := List.length_pos_iff.2 (statement_ne_nil derives)
        obtain ⟨rest, nodes, rfl, reads', derives', recorded'', stops⟩ :=
          ih h (by omega) (by omega) recorded'
        rw [reads'.current] at derives
        refine ⟨first ++ rest, node :: nodes, by simp, reads.trans reads', .cons derives derives',
          ?_, stops⟩
        simpa [after_after, Node.assignmentsOf] using recorded''

theorem body_derived (hsub : ReadsStatement settings.bound sub) {construct : Construct}
    {closers : List String} {body : Body}
    (h : (Parser.body settings sub construct closers).run s = (.ok body, t))
    (enough : s.cursor.remaining.length ≤ settings.bound) (recorded : Recorded site s.scopes) :
    ∃ tokens, s.cursor.Reads tokens t.cursor ∧
      Phrase.Derives site tokens t.cursor.current (.body body.braced body.statements) ∧
      Recorded (site.after (Node.assignmentsOf body.statements)) t.scopes ∧
      (body.braced = false → ∃ word ∈ closers, t.cursor.current.isKeyword word = true) := by
  rw [Parser.body, run_ifOperator] at h
  split at h
  next opening =>
    simp only [run_bind_eq_ok, run_advance, run_pure, Prod.mk.injEq, Except.ok.injEq] at h
    obtain ⟨nodes, u, hnodes, _, _, ⟨-, rfl⟩, rfl, rfl⟩ := h
    have opened := Cursor.reads_operator opening
    obtain ⟨tokens, nodes, rfl, reads, derives, recorded', closing⟩ :=
      statementsUntil_derived hsub hnodes (opened.within enough) (Nat.le_refl _) recorded
    have closed := Cursor.reads_operator closing
    exact ⟨_, opened.trans (reads.trans closed), .braced opening derives closing, recorded',
      by simp⟩
  next =>
    simp only [run_bind_eq_ok, run_pure, Prod.mk.injEq, Except.ok.injEq] at h
    obtain ⟨nodes, u, hnodes, rfl, rfl⟩ := h
    obtain ⟨tokens, nodes, rfl, reads, derives, recorded', closing⟩ :=
      statementsUntil_derived hsub hnodes enough (Nat.le_refl _) recorded
    exact ⟨tokens, reads, .unbraced derives, recorded', fun _ => by simpa using closing⟩

theorem closeBody_derived {closer : String} {body : Body} {nodes : List Node}
    {inside : List Token} (h : (closeBody body).run s = (.ok nodes, t))
    (derives : Phrase.Derives site inside s.cursor.current (.body body.braced body.statements))
    (closing : body.braced = false → ∃ word ∈ [closer], s.cursor.current.isKeyword word = true) :
    ∃ tokens, s.cursor.Reads tokens t.cursor ∧
      Phrase.Derives site (inside ++ tokens) t.cursor.current (.closedBody closer nodes) ∧
      nodes = body.statements ∧ t.scopes = s.scopes := by
  obtain ⟨statements, braced⟩ := body
  cases braced with
  | true =>
    obtain ⟨rfl, rfl⟩ : statements = nodes ∧ s = t := by simpa [closeBody] using h
    exact ⟨[], .refl _, by simpa using Phrase.Derives.closedBraced derives, rfl, rfl⟩
  | false =>
    have word : s.cursor.current.isKeyword closer = true := by simpa using closing rfl
    obtain ⟨rfl, rfl⟩ : statements = nodes ∧ s.advance = t := by
      simpa [closeBody, run_bind_of_ok (run_advance s)] using h
    exact ⟨_, Cursor.reads_keyword word, .closedWorded derives word,
      rfl, rfl⟩

theorem functionBody_derived (hsub : ReadsStatement settings.bound sub)
    (balanced : ∀ s, Balanced (sub.commands s)) {names closers : List String}
    {construct : Construct} {body : Body}
    (h : (between (enterFunction names) (Parser.body settings sub construct closers)
      leaveFunction).run s = (.ok body, t))
    (enough : s.cursor.remaining.length ≤ settings.bound) (recorded : Recorded site s.scopes) :
    ∃ tokens, s.cursor.Reads tokens t.cursor ∧
      Phrase.Derives site.inFunction tokens t.cursor.current (.body body.braced body.statements) ∧
      t.scopes = s.scopes ∧
      (body.braced = false → ∃ word ∈ closers, t.cursor.current.isKeyword word = true) := by
  have scopes := run_inFunction_scopes ((closed_balanced settings).body balanced construct closers)
    names s
  rw [h] at scopes
  rw [run_between, Prod.mk.injEq] at h
  obtain ⟨hbody, rfl⟩ := h
  -- entering a function passes no token, so its body starts where we are
  have place : (Command.applyAll (enterFunction names) s).cursor = s.cursor := by
    obtain ⟨tracker, entered⟩ := enterFunction_eq names s
    rw [entered]
  obtain ⟨tokens, reads, derives, -, closing⟩ :=
    body_derived hsub (Prod.ext hbody rfl) (by rwa [place]) (recorded.enterFunction names)
  rw [place] at reads
  exact ⟨tokens, reads, derives, scopes, closing⟩

theorem functionDefinition_derived (hsub : ReadsStatement settings.bound sub)
    (balanced : ∀ s, Balanced (sub.commands s)) {node : Node}
    (h : (functionDefinition settings sub).run s = (.ok node, t))
    (word : s.cursor.current.isKeyword "DEFUN" = true)
    (enough : s.cursor.remaining.length ≤ settings.bound) (recorded : Recorded site s.scopes) :
    Makes site s t (.simple node) node.assignments := by
  simp only [functionDefinition, run_bind_eq_ok, run_advance, run_expectIdentifier_eq_ok,
    run_expectOperator_eq_ok, run_note, run_change, run_pure, Prod.mk.injEq, Except.ok.injEq] at h
  obtain ⟨_, _, ⟨-, rfl⟩, _, _, ⟨identifier, rfl, rfl⟩, _, _, ⟨opening, rfl⟩, names, u, hnames, _,
    _, ⟨closing, rfl⟩, _, _, ⟨-, rfl⟩, _, _, ⟨-, rfl⟩, body, w, hbody, nodes, v, hclose, rfl,
    rfl⟩ := h
  have passed := (Cursor.reads_keyword word).trans
    ((Cursor.reads_identifier identifier).trans
      (Cursor.reads_operator opening))
  obtain ⟨tokens, readsNames, ⟨parameters, nodup⟩, scopesNames⟩ :=
    parameterList_sound _ names u (passed.within enough) hnames
  have reads := passed.trans (readsNames.trans
    (Cursor.reads_operator closing))
  have declared : Recorded site (u.scopes.declareFunction s.advance.cursor.current.text names) := by
    rw [scopesNames]
    exact recorded.declareFunction _ _
  obtain ⟨inside, readsBody, derives, scopes, closer⟩ :=
    functionBody_derived hsub balanced hbody (reads.within enough) declared
  obtain ⟨after, readsAfter, derives', rfl, scopesAfter⟩ := closeBody_derived hclose derives closer
  refine ⟨_, reads.trans (readsBody.trans readsAfter), ?_, ?_⟩
  · have derived : Phrase.Derives site _ v.cursor.current _ :=
      .function word identifier opening parameters nodup closing derives'
    simpa using derived
  · rw [scopesAfter, scopes]
    exact (after_nil site).symm ▸ declared

theorem loopBody_derived (hsub : ReadsStatement settings.bound sub) {construct : Construct}
    {nodes : List Node} (h : (loopBody settings sub construct).run s = (.ok nodes, t))
    (enough : s.cursor.remaining.length ≤ settings.bound) (recorded : Recorded site s.scopes) :
    ∃ tokens, s.cursor.Reads tokens t.cursor ∧
      Phrase.Derives site.inLoop tokens t.cursor.current (.closedBody construct.closer nodes) ∧
      Recorded (site.after (Node.assignmentsOf nodes)) t.scopes := by
  simp only [loopBody, run_bind_eq_ok, run_between, Prod.mk.injEq] at h
  obtain ⟨body, u, ⟨hbody, rfl⟩, hclose⟩ := h
  obtain ⟨inside, reads, derives, recorded', closing⟩ :=
    body_derived hsub (Prod.ext hbody rfl) enough recorded.push
  obtain ⟨after, readsAfter, derives', rfl, scopes⟩ := closeBody_derived hclose derives closing
  refine ⟨inside ++ after, Cursor.Reads.trans reads readsAfter, derives', ?_⟩
  rw [scopes]
  exact recorded'.pop

theorem whileLoop_derived (hinner : ReadsExpression settings.bound 1 inner)
    (hsub : ReadsStatement settings.bound sub) {node : Node}
    (h : (whileLoop settings inner sub).run s = (.ok node, t))
    (word : s.cursor.current.isKeyword "WHILE" = true)
    (enough : s.cursor.remaining.length ≤ settings.bound) (recorded : Recorded site s.scopes) :
    Makes site s t (.simple node) node.assignments := by
  simp only [whileLoop, run_bind_eq_ok, run_advance, run_pure, Prod.mk.injEq, Except.ok.injEq] at h
  obtain ⟨_, _, ⟨-, rfl⟩, condition, u, hcondition, nodes, v, hbody, rfl, rfl⟩ := h
  have passed := Cursor.reads_keyword word
  obtain ⟨tokens, reads, ⟨derives, -⟩, scopes⟩ :=
    hinner s.advance condition u (passed.within enough) hcondition
  have reads' := passed.trans reads
  obtain ⟨inside, readsBody, derives', recorded'⟩ :=
    loopBody_derived hsub hbody (reads'.within enough) (by rw [scopes]; exact recorded)
  rw [readsBody.current] at derives
  refine ⟨_, reads'.trans readsBody, ?_, recorded'⟩
  exact .whileLoop word derives derives'

theorem repeatLoop_derived (hinner : ReadsExpression settings.bound 1 inner)
    (hsub : ReadsStatement settings.bound sub) {node : Node}
    (h : (repeatLoop settings inner sub).run s = (.ok node, t))
    (word : s.cursor.current.isKeyword "REPEAT" = true)
    (enough : s.cursor.remaining.length ≤ settings.bound) (recorded : Recorded site s.scopes) :
    Makes site s t (.simple node) node.assignments := by
  simp only [repeatLoop, run_bind_eq_ok, run_advance, run_expectKeyword_eq_ok, run_pure,
    Prod.mk.injEq, Except.ok.injEq] at h
  obtain ⟨_, _, ⟨-, rfl⟩, count, u, hcount, _, _, ⟨times, rfl⟩, nodes, v, hbody, rfl, rfl⟩ := h
  have passed := Cursor.reads_keyword word
  obtain ⟨tokens, reads, ⟨derives, -⟩, scopes⟩ :=
    hinner s.advance count u (passed.within enough) hcount
  have reads' := passed.trans
    (reads.trans (Cursor.reads_keyword times))
  obtain ⟨inside, readsBody, derives', recorded'⟩ :=
    loopBody_derived hsub hbody (reads'.within enough)
      (by rw [State.advance_scopes, scopes]; exact recorded)
  refine ⟨_, reads'.trans readsBody, ?_, recorded'⟩
  have derived : Phrase.Derives site _ v.cursor.current _ :=
    .repeatLoop word derives times derives'
  simpa using derived

end DeskScript.Parser
