import DeskScript.Proofs.Grammar.Statement

/-!
Conditionals are those of the grammar: each further condition stands with its own branch, and the
closing word is there if and only if some branch has no braces.
-/

namespace DeskScript.Parser

open Grammar

variable {settings : Settings} {inner sub : Parser Node} {s t : State} {site : Site}

def ElseAlone (s : State) : Prop :=
  s.cursor.current.isKeyword "ELSE" = true →
    (s.cursor.advance.current.isKeyword "IF" &&
      s.cursor.advance.current.line == s.cursor.current.line) = false

theorem acceptElseIf_of_true (h : acceptElseIf.run s = (.ok true, t)) :
    ∃ words, s.cursor.Reads words t.cursor ∧ ElseIf words ∧ t.scopes = s.scopes := by
  rw [acceptElseIf, run_ifKeyword] at h
  split at h
  next word =>
    simp only [run_pure, Prod.mk.injEq, true_and] at h
    subst h
    exact ⟨_, Cursor.reads_keyword word, .one word, rfl⟩
  next =>
    rw [run_bind_of_ok (run_current s), run_bind_of_ok (run_next? s)] at h
    dsimp only at h
    split at h
    -- two words count as one only if they stand on one line
    next both =>
      simp only [run_bind_of_ok (run_advance _), run_pure, Prod.mk.injEq, true_and] at h
      subst h
      obtain ⟨first, second⟩ := Bool.and_eq_true_iff.1 both
      have goesOn := Token.not_eof_of_keyword first
      rw [Cursor.next?_eq_some goesOn, Option.any_some, Bool.and_eq_true, beq_iff_eq] at second
      exact ⟨_, (Cursor.advance_reads goesOn).trans
        (Cursor.reads_keyword second.1), .two first second.1 second.2,
        rfl⟩
    next => simp at h

theorem acceptElseIf_of_false (h : acceptElseIf.run s = (.ok false, t)) :
    t = s ∧ s.cursor.current.isKeyword "ELSEIF" = false ∧ ElseAlone s := by
  rw [acceptElseIf, run_ifKeyword] at h
  split at h
  next => simp at h
  next word =>
    rw [run_bind_of_ok (run_current s), run_bind_of_ok (run_next? s)] at h
    dsimp only at h
    split at h
    next => simp [run_bind_of_ok (run_advance _)] at h
    next apart =>
      simp only [run_pure, Prod.mk.injEq, true_and] at h
      subst h
      refine ⟨rfl, by simpa using word, fun first => ?_⟩
      rw [first, Cursor.next?_eq_some (Token.not_eof_of_keyword first)] at apart
      simpa only [Option.any_some, Bool.true_and, Bool.not_eq_true] using apart

theorem branch_derived (hinner : ReadsExpression settings.bound 1 inner)
    (hsub : ReadsStatement settings.bound sub) {condition : Node} {body : Body}
    (h : (branch settings inner sub).run s = (.ok (condition, body), t))
    (enough : s.cursor.remaining.length ≤ settings.bound) (recorded : Recorded site s.scopes) :
    Makes site s t (.branch body.braced condition body.statements)
      (Node.assignmentsOf body.statements) := by
  simp only [branch, run_bind_eq_ok, run_acceptKeyword, run_pure, Prod.mk.injEq,
    Except.ok.injEq] at h
  obtain ⟨_, u, hcondition, _, v, ⟨rfl, hv⟩, _, _, hbody, ⟨rfl, rfl⟩, rfl⟩ := h
  obtain ⟨tokens, reads, ⟨derives, -⟩, scopes⟩ := hinner s _ u enough hcondition
  have ⟨words, readsWords, hwords, same⟩ :
      ∃ words, u.cursor.Reads words v.cursor ∧ Then words ∧ v.scopes = u.scopes := by
    subst hv
    split
    next word => exact ⟨_, Cursor.reads_keyword word, .stated word, rfl⟩
    next => exact ⟨[], .refl _, .missing, rfl⟩
  have reads' := reads.trans readsWords
  obtain ⟨inside, readsBody, derives', recorded', -⟩ :=
    body_derived hsub hbody (reads'.within enough) (by rw [same, scopes]; exact recorded)
  rw [(readsWords.trans readsBody).current] at derives
  exact ⟨_, reads.trans (readsWords.trans readsBody), .branch derives hwords derives', recorded'⟩

def kept (branch : Node × Body) : Node × List Node :=
  (branch.1, branch.2.statements)

theorem elseIf_ne_nil {words : List Token} (h : ElseIf words) : words ≠ [] := by
  cases h <;> simp

theorem elseIfs_derived (hinner : ReadsExpression settings.bound 1 inner)
    (hsub : ReadsStatement settings.bound sub) {read all : List (Node × Body)} {rounds : Nat}
    (h : (elseIfs settings inner sub read rounds).run s = (.ok all, t))
    (enough : s.cursor.remaining.length ≤ rounds) (le : rounds ≤ settings.bound)
    (recorded : Recorded site s.scopes) :
    ∃ branches, all = read.reverse ++ branches ∧ ElseAlone t ∧
      Makes site s t (.elseIfs (branches.all (·.2.braced)) (branches.map kept))
        (Node.assignmentsOfAll (branches.map (·.2.statements))) := by
  induction rounds generalizing s read site with
  | zero => exact absurd enough (by simp [Cursor.remaining])
  | succ rounds ih =>
    rw [elseIfs, run_bind_eq_ok] at h
    obtain ⟨found, u, hfound, h⟩ := h
    cases found with
    | false =>
      obtain ⟨rfl, word, alone⟩ := acceptElseIf_of_false hfound
      obtain ⟨rfl, rfl⟩ : read.reverse = all ∧ u = t := by simpa using h
      exact ⟨[], by simp, alone, [], .refl _, .noElseIf word, by
        simpa [Node.assignmentsOfAll] using recorded⟩
    | true =>
      obtain ⟨words, readsWords, elseIf, scopes⟩ := acceptElseIf_of_true hfound
      simp only [if_true, run_bind_eq_ok] at h
      obtain ⟨⟨condition, body⟩, v, hbranch, h⟩ := h
      have few := Nat.le_trans enough le
      obtain ⟨first, reads, derives, recorded'⟩ :=
        branch_derived hinner hsub hbranch (readsWords.within few) (by rw [scopes]; exact recorded)
      -- the words before a condition are tokens, so a round less suffices for what is left
      have shorter := (readsWords.trans reads).length
      have progress := List.length_pos_iff.2 (elseIf_ne_nil elseIf)
      rw [List.length_append] at shorter
      obtain ⟨branches, rfl, alone, rest, reads', derives', recorded''⟩ :=
        ih h (by omega) (by omega) recorded'
      rw [reads'.current] at derives
      refine ⟨(condition, body) :: branches, by simp, alone, _,
        readsWords.trans (reads.trans reads'), .elseIf elseIf derives derives', ?_⟩
      simpa [after_after, Node.assignmentsOfAll] using recorded''

theorem elseBranch?_derived (hsub : ReadsStatement settings.bound sub) {last : Option Body}
    (h : (elseBranch? settings sub).run s = (.ok last, t))
    (enough : s.cursor.remaining.length ≤ settings.bound) (alone : ElseAlone s)
    (recorded : Recorded site s.scopes) :
    Makes site s t (.elseBranch (last.all (·.braced)) (last.map (·.statements)))
      (Node.assignmentsOfOption (last.map (·.statements))) := by
  rw [elseBranch?, run_ifKeyword] at h
  split at h
  next word =>
    simp only [run_bind_eq_ok, run_pure, Prod.mk.injEq, Except.ok.injEq] at h
    obtain ⟨body, _, hbody, rfl, rfl⟩ := h
    have passed := Cursor.reads_keyword word
    obtain ⟨inside, reads, derives, recorded', -⟩ :=
      body_derived hsub hbody (passed.within enough) recorded
    have apart := alone word
    rw [← State.advance_cursor, reads.current] at apart
    exact ⟨_, passed.trans reads, .elseBranch word apart derives, recorded'⟩
  next word =>
    obtain ⟨rfl, rfl⟩ : none = last ∧ s = t := by simpa using h
    exact ⟨[], .refl _, .noElse (by simpa using word), by
      simpa [Node.assignmentsOfOption] using recorded⟩

theorem closeConditional_eq_ok {bodies : List Body} {u : Unit}
    (h : (closeConditional bodies).run s = (.ok u, t)) :
    (bodies.all (·.braced) = true ∧ t = s) ∨
      (bodies.all (·.braced) = false ∧ s.cursor.current.isKeyword "ENDIF" = true ∧
        t = s.advance) := by
  unfold closeConditional at h
  split at h
  next all => exact .inl ⟨all, by simpa using h.symm⟩
  next some =>
    rw [run_expectKeyword_eq_ok] at h
    exact .inr ⟨by simpa using some, h.1, h.2.symm⟩

theorem all_braced (first : Body) (others : List (Node × Body)) (last : Option Body) :
    (first :: others.map (·.2) ++ last.toList).all (·.braced) =
      (first.braced && others.all (·.2.braced) && last.all (·.braced)) := by
  cases last <;> simp [Function.comp_def, Bool.and_assoc]

theorem ifStatement_derived (hinner : ReadsExpression settings.bound 1 inner)
    (hsub : ReadsStatement settings.bound sub) {node : Node}
    (h : (ifStatement settings inner sub).run s = (.ok node, t))
    (word : s.cursor.current.isKeyword "IF" = true)
    (enough : s.cursor.remaining.length ≤ settings.bound) (recorded : Recorded site s.scopes) :
    Makes site s t (.simple node) node.assignments := by
  simp only [ifStatement, run_bind_eq_ok, run_advance, run_pure, Prod.mk.injEq, Except.ok.injEq,
    Prod.exists] at h
  obtain ⟨_, _, ⟨-, rfl⟩, condition, thenBody, u, hbranch, others, v, hothers, last, w, hlast, _,
    x, hclose, rfl, rfl⟩ := h
  have passed := Cursor.reads_keyword word
  obtain ⟨first, readsFirst, derivesFirst, afterFirst⟩ :=
    branch_derived hinner hsub hbranch (passed.within enough) recorded
  have few := (passed.trans readsFirst).within enough
  obtain ⟨_, rfl, alone, further, readsFurther, derivesFurther, afterFurther⟩ :=
    elseIfs_derived hinner hsub hothers few (Nat.le_refl _) afterFirst
  obtain ⟨rest, readsRest, derivesRest, afterRest⟩ :=
    elseBranch?_derived hsub hlast (readsFurther.within few) alone afterFurther
  have reads := passed.trans (readsFirst.trans (readsFurther.trans readsRest))
  -- each part is followed by the first token of the parts after it, which may all be empty
  rw [(readsFurther.trans readsRest).current] at derivesFirst
  rw [readsRest.current] at derivesFurther
  simp only [after_after, List.append_assoc] at afterRest
  have bodies : others.map (·.2.statements) = (others.map kept).map (·.2) := by
    rw [List.map_map]; rfl
  have conditions : others.map (·.1) = (others.map kept).map (·.1) := by
    rw [List.map_map]; rfl
  rw [bodies] at derivesRest afterRest ⊢
  rw [conditions]
  rcases closeConditional_eq_ok hclose with ⟨all, rfl⟩ | ⟨all, closing, rfl⟩
  · rw [all_braced, Bool.and_eq_true, Bool.and_eq_true] at all
    obtain ⟨⟨braced, bracedFurther⟩, bracedRest⟩ := all
    rw [braced] at derivesFirst
    rw [bracedFurther] at derivesFurther
    rw [bracedRest] at derivesRest
    exact ⟨s.cursor.current :: (first ++ (further ++ rest)), reads,
      .ifBraced word derivesFirst derivesFurther derivesRest, afterRest⟩
  · rw [all_braced] at all
    refine ⟨_, reads.trans (Cursor.reads_keyword closing), ?_, afterRest⟩
    have derived : Phrase.Derives site _ w.advance.cursor.current _ :=
      .ifWorded word derivesFirst derivesFurther derivesRest all closing
    simpa using derived

end DeskScript.Parser
