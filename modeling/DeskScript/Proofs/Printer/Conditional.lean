import DeskScript.Proofs.Printer.Statement

/-!
Conditionals that are written are read back. A branch without braces runs up to the next word of
its own conditional: a conditional inside it takes its words only up to the semicolon after it, and
whatever stands in the branch for no condition stands on a line after `ELSE`.
-/

namespace DeskScript.Printer

open DeskScript.Grammar DeskScript.Parser

variable {settings : Settings} {count line last : Nat} {s : State} {node : Node} {site : Site}
variable {rest : List Token} {K : Tracker → Prop} {layout : Layout}

theorem gives_branch (expressions : ReadsBack settings count)
    (readsBack : StatementReadsBack settings count) {condition : Node} {nodes : List Node}
    {braced stated : Bool} {tail : List Token} (fits : levels condition ≤ count)
    (fitsBody : levelsOf nodes ≤ count) (legal : isExpression condition = true)
    (legalBody : areStatements site nodes = true) (closes : Closes branchClosers braced tail)
    (h : At settings count (expression line condition ++ (thenWord line stated ++
      (body braced line last (statements layout (line + 1) nodes) ++ tail))) (Recorded site) s) :
    Gives (branch settings (Parser.expression settings count 1) (Parser.statement settings count))
      s (condition, ⟨nodes, braced⟩)
      (At settings count tail (Recorded (site.after (Node.assignmentsOf nodes)))) := by
  have known : ∀ text ∈ branchClosers, text ∈ closingWords := by decide
  obtain ⟨token, tokens, starts, fresh, -⟩ := body_cons legalBody known closes layout line last
  cases stated with
  | true =>
    have ends : Ends line (word line "THEN") :=
      ⟨⟨rfl, rfl⟩, precedence_of_other (by decide) (by decide) line⟩
    refine (expressions line condition _ _ _ s fits legal ends h).bind fun t ht => ?_
    refine (gives_acceptKeyword ht (isKeyword_self line "THEN")).bind fun u hu => ?_
    exact (gives_body readsBack fitsBody legalBody known closes hu).bind fun v hv => .pure hv
  | false =>
    rw [thenWord, if_neg (by decide), List.nil_append, starts] at h
    refine (expressions line condition _ _ _ s fits legal fresh.ends h).bind fun t ht => ?_
    refine (gives_acceptKeyword_false ht fresh.notThen).bind fun u hu => ?_
    rw [← starts] at hu
    exact (gives_body readsBack fitsBody legalBody known closes hu).bind fun v hv => .pure hv

theorem gives_elseIfWords {oneWord : Bool}
    (h : At settings count (elseIfWords line oneWord ++ rest) K s) :
    Gives acceptElseIf s true (At settings count rest K) := by
  cases oneWord with
  | true =>
    refine (gives_acceptKeyword h (isKeyword_self line "ELSEIF")).bind fun t ht => ?_
    exact .pure ht
  | false =>
    have notOne : (word line "ELSE").isKeyword "ELSEIF" = false := by
      rw [isKeyword_word]
      decide
    refine (gives_acceptKeyword_false h notOne).bind fun t ht => ?_
    rw [if_neg (by decide)]
    refine (gives_current ht).bind fun u hu => (gives_next? hu).bind fun v hv => ?_
    dsimp only
    rw [Option.any_some, isKeyword_self, isKeyword_self,
      if_pos (by rw [Bool.true_and, Bool.true_and]; exact beq_self_eq_true line)]
    refine (gives_advance hv rfl).bind fun w hw => (gives_advance hw rfl).bind fun x hx => ?_
    exact .pure hx

def NoElseIf (tokens : List Token) : Prop :=
  ∃ token rest, tokens = token :: rest ∧ token.isKeyword "ELSEIF" = false ∧
    (token.isKeyword "ELSE" = true →
      ∃ next others, rest = next :: others ∧
        (next.isKeyword "IF" && next.line == token.line) = false)

theorem gives_noElseIf {tokens : List Token} (none : NoElseIf tokens)
    (h : At settings count tokens K s) :
    Gives acceptElseIf s false (At settings count tokens K) := by
  obtain ⟨token, rest, rfl, notOne, alone⟩ := none
  refine (gives_acceptKeyword_false h notOne).bind fun t ht => ?_
  rw [if_neg (by decide)]
  refine (gives_current ht).bind fun u hu => ?_
  refine (gives_of_run (run_next? u) hu).bind fun v hv => ?_
  have apart : (token.isKeyword "ELSE" && u.cursor.next?.any fun next =>
      next.isKeyword "IF" && next.line == token.line) = false := by
    cases word : token.isKeyword "ELSE" with
    | false => rfl
    | true =>
      obtain ⟨next, others, rfl, notIf⟩ := alone word
      rw [hu.next?, Option.any_some, notIf]
      rfl
  dsimp only
  rw [apart, if_neg (by decide)]
  exact .pure hv

theorem closes_elseIfs {braced : Bool} {later : List Token}
    (closes : Closes branchClosers braced later) (layout : Layout) (line : Nat)
    (conditions : List Node) (bodies : List (List Node)) :
    Closes branchClosers braced (elseIfs layout line conditions bodies ++ later) := by
  cases bodies with
  | nil => exact closes
  | cons first others =>
    intro _
    rw [elseIfs, elseIfWords]
    cases layout.choice.oneWord with
    | true => exact ⟨"ELSEIF", by decide, _, _, rfl⟩
    | false => exact ⟨"ELSE", by decide, _, _, rfl⟩

/-- What further branches are read as: the conditions and bodies they were written from. -/
structure Branches (layout : Layout) (conditions : List Node) (bodies : List (List Node))
    (branches : List (Node × Body)) : Prop where
  guards : branches.map (·.1) = conditions
  guarded : branches.map (·.2.statements) = bodies
  braced : branches.all (·.2.braced) = allBraced layout bodies.length

theorem gives_elseIfs (expressions : ReadsBack settings count)
    (readsBack : StatementReadsBack settings count) (read : List (Node × Body))
    {conditions : List Node} {bodies : List (List Node)} {rounds : Nat} {later : List Token}
    (fits : levelsOf conditions ≤ count) (fitsBodies : levelsOfAll bodies ≤ count)
    (legal : areExpressions conditions = true) (legalBodies : areBodies site bodies = true)
    (paired : conditions.length = bodies.length) (none : NoElseIf later)
    (closes : Closes branchClosers (allBraced layout bodies.length) later)
    (enough : bodies.length < rounds)
    (h : At settings count (elseIfs layout line conditions bodies ++ later) (Recorded site) s) :
    ∃ branches, Branches layout conditions bodies branches ∧
      Gives (Parser.elseIfs settings (Parser.expression settings count 1)
        (Parser.statement settings count) read rounds) s (read.reverse ++ branches)
        (At settings count later (Recorded (site.after (Node.assignmentsOfAll bodies)))) := by
  induction bodies generalizing read conditions rounds s site layout line with
  | nil =>
    obtain ⟨rounds, rfl⟩ := Nat.exists_eq_add_one.2 (Nat.zero_lt_of_lt enough)
    obtain rfl := List.eq_nil_of_length_eq_zero paired
    refine ⟨[], ⟨rfl, rfl, rfl⟩, ?_⟩
    refine (gives_noElseIf none h).bind fun t ht => ?_
    rw [if_neg (by decide), List.append_nil, Node.assignmentsOfAll, after_nil]
    exact .pure ht
  | cons first others ih =>
    obtain ⟨rounds, rfl⟩ := Nat.exists_eq_add_one.2 (Nat.zero_lt_of_lt enough)
    obtain ⟨condition, conditions, rfl⟩ := List.exists_cons_of_length_eq_add_one paired
    rw [levelsOf] at fits
    rw [levelsOfAll] at fitsBodies
    rw [areExpressions, Bool.and_eq_true] at legal
    rw [areBodies, Bool.and_eq_true] at legalBodies
    have closesHere : Closes branchClosers layout.choice.braced later := by
      intro bare
      exact closes (by rw [List.length_cons, allBraced, bare, Bool.false_and])
    have closesLater : Closes branchClosers (allBraced (layout.part 1) others.length) later := by
      intro bare
      exact closes (by rw [List.length_cons, allBraced, bare, Bool.and_false])
    simp only [elseIfs, List.append_assoc, List.head?_cons, Option.elim_some, List.tail_cons] at h
    have following := closes_elseIfs closesHere (layout.part 1) (line + heights first + 1)
      conditions others
    -- which branches are read is known only at the end, so the run is put together there
    obtain ⟨t, run, ht⟩ := gives_elseIfWords h
    obtain ⟨u, run', hu⟩ := gives_branch expressions readsBack (by omega) (by omega) legal.1
      legalBodies.1 following ht
    obtain ⟨branches, written, read'⟩ := ih ((condition, ⟨first, layout.choice.braced⟩) :: read)
      (by omega) (by omega) legal.2 legalBodies.2 (Nat.succ.inj paired) closesLater
      (Nat.lt_of_succ_lt_succ enough) hu
    refine ⟨(condition, ⟨first, layout.choice.braced⟩) :: branches, ⟨?_, ?_, ?_⟩, ?_⟩
    · rw [List.map_cons, written.guards]
    · rw [List.map_cons, written.guarded]
    · rw [List.all_cons, written.braced]
      rfl
    · rw [after_after, ← Node.assignmentsOfAll] at read'
      rw [List.reverse_cons, List.append_assoc] at read'
      refine (gives_of_run (Q := (· = t)) run rfl).bind ?_
      rintro _ rfl
      refine (gives_of_run (Q := (· = u)) run' rfl).bind ?_
      rintro _ rfl
      exact read'

theorem closes_elseBranch {braced : Bool} {later : List Token}
    (closes : Closes branchClosers braced later) (layout : Layout) (line : Nat)
    (elseBody : Option (List Node)) :
    Closes branchClosers braced (elseBranch layout line elseBody ++ later) := by
  cases elseBody with
  | none => exact closes
  | some nodes => exact fun _ => ⟨"ELSE", by decide, _, _, rfl⟩

theorem closes_end {closers : List String} (known : "ENDIF" ∈ closers) {braced all : Bool}
    (bare : braced = false → all = false) (line : Nat) (rest : List Token) :
    Closes closers braced (closer line "ENDIF" all ++ rest) := by
  intro notBraced
  rw [bare notBraced]
  exact ⟨"ENDIF", known, line, rest, rfl⟩

theorem end_cons (line last : Nat) (all : Bool) (rest : List Token) :
    ∃ token others, closer line "ENDIF" all ++ sign last ";" :: rest = token :: others ∧
      token.isKeyword "ELSEIF" = false ∧ token.isKeyword "ELSE" = false := by
  cases all with
  | true => exact ⟨_, _, rfl, rfl, rfl⟩
  | false =>
    refine ⟨_, _, rfl, ?_, ?_⟩
    · rw [isKeyword_word]
      decide
    · rw [isKeyword_word]
      decide

theorem noElseIf_elseBranch {elseBody : Option (List Node)} {all : Bool} {final : Nat}
    (legal : isElseBody site elseBody = true)
    (bare : elseBraced layout elseBody = false → all = false) :
    NoElseIf (elseBranch layout line elseBody ++
      (closer final "ENDIF" all ++ sign last ";" :: rest)) := by
  cases elseBody with
  | none =>
    obtain ⟨token, others, starts, notOne, notElse⟩ := end_cons final last all rest
    exact ⟨token, others, starts, notOne, fun word => by rw [notElse] at word; cases word⟩
  | some nodes =>
    have known : ∀ text ∈ ["ENDIF"], text ∈ closingWords := by decide
    -- a conditional that starts the body stands on the next line, so `ELSE` is alone on its own
    obtain ⟨token, tokens, starts, fresh, -⟩ :=
      body_cons legal known (closes_end (List.mem_singleton_self _) bare final
        (sign last ";" :: rest)) (layout.part 0) line (line + heights nodes + 1)
    refine ⟨word line "ELSE", _, rfl, ?_, fun _ => ⟨token, tokens, starts, fresh.notIf⟩⟩
    rw [isKeyword_word]
    decide

theorem gives_elseBranch (readsBack : StatementReadsBack settings count)
    {elseBody : Option (List Node)} {all : Bool} {final : Nat}
    (fits : levelsOfElse elseBody ≤ count) (legal : isElseBody site elseBody = true)
    (bare : elseBraced layout elseBody = false → all = false)
    (h : At settings count (elseBranch layout line elseBody ++
      (closer final "ENDIF" all ++ sign last ";" :: rest)) (Recorded site) s) :
    Gives (elseBranch? settings (Parser.statement settings count)) s
      (elseBody.map fun nodes => ⟨nodes, layout.choice.braced⟩)
      (At settings count (closer final "ENDIF" all ++ sign last ";" :: rest)
        (Recorded (site.after (Node.assignmentsOfOption elseBody)))) := by
  cases elseBody with
  | none =>
    obtain ⟨token, others, starts, -, notElse⟩ := end_cons final last all rest
    rw [elseBranch, List.nil_append, starts] at h
    refine (gives_acceptKeyword_false h notElse).bind fun t ht => ?_
    rw [← starts] at ht
    rw [if_neg (by decide), Node.assignmentsOfOption, after_nil]
    exact .pure ht
  | some nodes =>
    refine (gives_acceptKeyword h (isKeyword_self line "ELSE")).bind fun t ht => ?_
    rw [if_pos rfl]
    refine (gives_body readsBack fits legal (by decide) (closes_end (List.mem_singleton_self _)
      bare final (sign last ";" :: rest)) ht).bind fun u hu => ?_
    exact .pure hu

theorem gives_closeConditional {bodies : List Body} {all : Bool} {final : Nat}
    (same : bodies.all (·.braced) = all)
    (h : At settings count (closer final "ENDIF" all ++ rest) K s) :
    Gives (closeConditional bodies) s () (At settings count rest K) := by
  unfold closeConditional
  rw [same]
  cases all with
  | true => exact .pure h
  | false => exact gives_expectKeyword h (isKeyword_self final "ENDIF")

theorem length_le_elseIfs (layout : Layout) (line : Nat) (conditions : List Node)
    (bodies : List (List Node)) :
    bodies.length ≤ (elseIfs layout line conditions bodies).length := by
  induction bodies generalizing layout line conditions with
  | nil => exact Nat.zero_le _
  | cons first others ih =>
    have later := ih (layout.part 1) (line + heights first + 1) conditions.tail
    have some : 0 < (elseIfWords line layout.choice.oneWord).length := by
      cases oneWord : layout.choice.oneWord <;> exact Nat.succ_pos _
    simp only [elseIfs, List.length_append, List.length_cons]
    omega

theorem gives_ifStatement (expressions : ReadsBack settings count)
    (readsBack : StatementReadsBack settings count) {condition : Node}
    {nodes conditions : List Node} {bodies : List (List Node)} {elseBody : Option (List Node)}
    (fits : levels (.ifStatement condition nodes conditions bodies elseBody) ≤ count + 1)
    (legal : isStatement site (.ifStatement condition nodes conditions bodies elseBody) = true)
    (h : At settings count
      (statement layout line (.ifStatement condition nodes conditions bodies elseBody) ++
        sign last ";" :: rest) (Recorded site) s) :
    Gives (ifStatement settings (Parser.expression settings count 1)
      (Parser.statement settings count)) s (.ifStatement condition nodes conditions bodies elseBody)
      (At settings count (sign last ";" :: rest) (Recorded (site.after
        (Node.assignments (.ifStatement condition nodes conditions bodies elseBody))))) := by
  simp only [isStatement, Bool.and_eq_true, beq_iff_eq] at legal
  obtain ⟨⟨⟨⟨⟨legalCondition, legalNodes⟩, legalConditions⟩, paired⟩, legalBodies⟩, legalElse⟩ :=
    legal
  rw [levels] at fits
  simp only [statement, List.cons_append, List.append_assoc] at h
  -- the conditional ends with a word of its own if some branch has no braces
  generalize hall : (layout.choice.braced && allBraced (layout.part 1) bodies.length &&
    elseBraced (layout.part 2) elseBody) = all at h
  have few := h.few
  have long := length_le_elseIfs (layout.part 1) (line + heights nodes + 1) conditions bodies
  simp only [List.length_cons, List.length_append] at few
  have bare : layout.choice.braced = false → all = false := by
    intro bare
    rw [← hall, bare, Bool.false_and, Bool.false_and]
  have bareChain : allBraced (layout.part 1) bodies.length = false → all = false := by
    intro bare
    rw [← hall, bare, Bool.and_false, Bool.false_and]
  have bareElse : elseBraced (layout.part 2) elseBody = false → all = false := by
    intro bare
    rw [← hall, bare, Bool.and_false]
  have closes {braced : Bool} (bare : braced = false → all = false) (line' : Nat) :=
    closes_elseBranch (closes_end (by decide) bare line' (sign last ";" :: rest)) (layout.part 2)
  obtain ⟨t, run₁, ht⟩ := gives_advance h rfl
  obtain ⟨u, run₂, hu⟩ := gives_branch expressions readsBack (by omega) (by omega) legalCondition
    legalNodes (closes_elseIfs (closes bare _ _ elseBody) _ _ conditions bodies) ht
  obtain ⟨branches, written, v, run₃, hv⟩ := gives_elseIfs expressions readsBack [] (by omega)
    (by omega) legalConditions legalBodies paired (noElseIf_elseBranch legalElse bareElse)
    (closes bareChain _ _ elseBody) (show bodies.length < settings.bound by omega) hu
  obtain ⟨w, run₄, hw⟩ := gives_elseBranch readsBack (by omega) legalElse bareElse hv
  have kept : (elseBody.map fun nodes => (⟨nodes, (layout.part 2).choice.braced⟩ : Body)).map
      (·.statements) = elseBody := by
    cases elseBody <;> rfl
  have same : ((⟨nodes, layout.choice.braced⟩ : Body) :: branches.map (·.2) ++
      (elseBody.map fun nodes => (⟨nodes, (layout.part 2).choice.braced⟩ : Body)).toList).all
        (·.braced) = all := by
    rw [all_braced, written.braced, ← hall]
    cases elseBody <;> rfl
  obtain ⟨x, run₅, hx⟩ := gives_closeConditional same hw
  refine ⟨x, ?_, ?_⟩
  · rw [ifStatement, run_bind_of_ok run₁, run_bind_of_ok run₂]
    dsimp only
    rw [run_bind_of_ok run₃, List.reverse_nil, List.nil_append, run_bind_of_ok run₄,
      run_bind_of_ok run₅, run_pure, written.guards, written.guarded, kept]
  · rw [after_after, after_after] at hx
    exact hx

end DeskScript.Printer
