import DeskScript.Proofs.Printer.Conditional

/-!
Programs that are written are read back. Main statement: `parse_program`.
-/

namespace DeskScript.Printer

open DeskScript.Grammar DeskScript.Parser

variable {settings : Settings} {count line last : Nat} {s : State} {node : Node} {site : Site}
variable {inner sub : Parser Node} {rest : List Token} {K : Tracker → Prop} {Q : State → Prop}
variable {layout : Layout}

theorem gives_keyword {text : String} (upper : Text.upper text = text)
    (h : At settings count (word line text :: rest) K s)
    (next : ∀ t, At settings count (word line text :: rest) K t →
      Gives (wordStatement settings inner sub (word line text) text) t node Q) :
    Gives (unterminated settings inner sub) s node Q := by
  refine (gives_current h).bind fun t ht => ?_
  change Gives (keywordStatement settings inner sub) t node Q
  refine (gives_current ht).bind fun u hu => ?_
  change Gives (do
    note (.statement (Text.upper text) line)
    wordStatement settings inner sub (word line text) (Text.upper text)) u node Q
  rw [upper]
  exact (gives_note _ hu).bind fun v hv => next v hv

theorem Gives.unassigned {p : Parser Node} {tokens : List Token} (none : node.assignments = [])
    (h : Gives p s node (At settings count tokens (Recorded site))) :
    Gives p s node (At settings count tokens (Recorded (site.after node.assignments))) := by
  rwa [none, after_nil]

theorem gives_valued (expressions : ReadsBack settings count) {text : String} {value : Node}
    {f : Node → Node} (fits : levels value ≤ count) (legal : isExpression value = true)
    (h : At settings count (word line text :: (expression line value ++ sign last ";" :: rest))
      K s) :
    Gives (do advance; let value ← Parser.expression settings count 1; return f value) s (f value)
      (At settings count (sign last ";" :: rest) K) := by
  refine (gives_advance h rfl).bind fun t ht => ?_
  exact (expressions line value _ _ K t fits legal (ends_semicolon line last) ht).bind
    fun u hu => .pure hu

theorem gives_control (expressions : ReadsBack settings count) {control : Control}
    {value : Option Node} (fits : levels (.controlStatement control value) ≤ count + 1)
    (legal : isStatement site (.controlStatement control value) = true)
    (h : At settings count (statement layout line (.controlStatement control value) ++
      sign last ";" :: rest) (Recorded site) s) :
    Gives (unterminated settings (Parser.expression settings count 1)
      (Parser.statement settings count)) s (.controlStatement control value)
      (At settings count (sign last ";" :: rest) (Recorded site)) := by
  rw [isStatement, Bool.and_eq_true, decide_eq_true_eq] at legal
  obtain ⟨tokens, starts⟩ := control_cons layout line control value (sign last ";" :: rest)
  have here := h
  rw [starts] at here
  refine gives_keyword (upper_control control) here fun t ht => ?_
  have chosen : wordStatement settings (Parser.expression settings count 1)
      (Parser.statement settings count) (word line control.word) control.word =
      controlStatement (Parser.expression settings count 1) control := by
    cases control <;> rfl
  rw [← starts] at ht
  rw [chosen]
  refine gives_controlStatement expressions (fun value same => ?_) legal.2 legal.1 ht
  subst same
  exact Nat.le_of_succ_le_succ fits

theorem gives_update (unchecked : settings.options = .none) {text operation : String}
    {before : Bool} (legal : isStatement site (.update text operation before) = true)
    (h : At settings count (statement layout line (.update text operation before) ++
      sign last ";" :: rest) (Recorded site) s) :
    Gives (unterminated settings (Parser.expression settings count 1)
      (Parser.statement settings count)) s (.update text operation before)
      (At settings count (sign last ";" :: rest) (Recorded site)) := by
  cases before with
  | true =>
    refine (gives_current h).bind fun t ht => ?_
    dsimp only [sign]
    rw [if_pos (by exact (step_of_mem legal line).1)]
    exact gives_updateBefore unchecked ht
  | false =>
    refine (gives_current h).bind fun t ht => ?_
    exact gives_updateStatement unchecked legal ht

theorem gives_unterminated (expressions : ReadsBack settings count)
    (readsBack : StatementReadsBack settings count) (unchecked : settings.options = .none)
    (fits : levels node ≤ count + 1) (legal : isStatement site node = true)
    (h : At settings count (statement layout line node ++ sign last ";" :: rest)
      (Recorded site) s) :
    Gives (unterminated settings (Parser.expression settings count 1)
      (Parser.statement settings count)) s node
      (At settings count (sign last ";" :: rest) (Recorded (site.after node.assignments))) := by
  -- the first word of a statement selects the rule that reads the rest
  cases node with
  | functionDefinition function names nodes =>
    rw [isStatement, Bool.and_eq_true, decide_eq_true_eq] at legal
    simp only [statement, closedBody, List.cons_append, List.append_assoc] at h
    refine Gives.unassigned rfl ?_
    refine gives_keyword (by decide) h fun t ht => ?_
    exact gives_functionDefinition readsBack (Nat.le_of_succ_le_succ fits) legal.1 legal.2 ht
  | assignment target value type =>
    rw [isStatement, Bool.and_eq_true] at legal
    simp only [statement, List.cons_append, List.append_assoc] at h
    refine gives_keyword (by decide) h fun t ht => ?_
    exact gives_assignment expressions (Nat.le_of_succ_le_succ fits) legal.1 legal.2 ht
  | printStatement form value =>
    rw [isStatement, Bool.and_eq_true] at legal
    have spelled : form = "PRINT" ∨ form = "PRINTLN" := by simpa [printWords] using legal.1
    refine Gives.unassigned rfl ?_
    rcases spelled with rfl | rfl <;> refine gives_keyword (by decide) h fun t ht => ?_ <;>
      exact gives_valued expressions (Nat.le_of_succ_le_succ fits) legal.2 ht
  | waitStatement value =>
    refine Gives.unassigned rfl ?_
    refine gives_keyword (by decide) h fun t ht => ?_
    exact gives_valued expressions (Nat.le_of_succ_le_succ fits) legal ht
  | moveMouse x y =>
    rw [isStatement, Bool.and_eq_true] at legal
    simp only [statement, List.cons_append, List.append_assoc] at h
    refine Gives.unassigned rfl ?_
    refine gives_keyword (by decide) h fun t ht => ?_
    exact gives_moveMouse expressions (Nat.le_of_succ_le_succ fits) legal.1 legal.2 ht
  | keyOperation operation key =>
    have spelled : operation = "HOLD" ∨ operation = "RELEASE" ∨ operation = "PRESS" := by
      simpa [isStatement, keyWords] using legal
    refine Gives.unassigned rfl ?_
    rcases spelled with rfl | rfl | rfl <;> refine gives_keyword (by decide) h fun t ht => ?_ <;>
      exact gives_keyOperation ht
  | buttonOperation button =>
    have known : button ∈ buttons := by simpa [isStatement] using legal
    refine Gives.unassigned rfl ?_
    refine gives_keyword (by decide) h fun t ht => ?_
    exact gives_buttonOperation known ht
  | emptyStatement =>
    refine Gives.unassigned rfl ?_
    refine gives_keyword (by decide) h fun t ht => ?_
    exact (gives_advance ht rfl).bind fun u hu => .pure hu
  | functionCall text nodes =>
    refine Gives.unassigned rfl ?_
    change At settings count (expression line (.functionCall text nodes) ++ sign last ";" :: rest)
      (Recorded site) s at h
    refine (gives_current_append (expression_call text nodes) h).bind fun t ht => ?_
    exact gives_callStatement expressions unchecked (Nat.le_of_succ_le_succ fits) legal ht
  | whileLoop condition nodes =>
    rw [isStatement, Bool.and_eq_true] at legal
    rw [levels] at fits
    simp only [statement, closedBody, List.cons_append, List.append_assoc] at h
    refine gives_keyword (by decide) h fun t ht => ?_
    exact gives_whileLoop expressions readsBack (by omega) (by omega) legal.1 legal.2 ht
  | repeatLoop times nodes =>
    rw [isStatement, Bool.and_eq_true] at legal
    rw [levels] at fits
    simp only [statement, closedBody, List.cons_append, List.append_assoc] at h
    refine gives_keyword (by decide) h fun t ht => ?_
    exact gives_repeatLoop expressions readsBack (by omega) (by omega) legal.1 legal.2 ht
  | controlStatement control value =>
    exact Gives.unassigned rfl (gives_control expressions fits legal h)
  | update text operation before => exact Gives.unassigned rfl (gives_update unchecked legal h)
  | ifStatement condition nodes conditions bodies elseBody =>
    refine gives_keyword (by decide) h fun t ht => ?_
    exact gives_ifStatement expressions readsBack fits legal ht
  | _ => cases legal

theorem statement_levels_pos (legal : isStatement site node = true) : 0 < levels node := by
  cases node with
  | binaryOperation | identifier | integer | float | time | string | boolean | program =>
    cases legal
  | controlStatement control value => cases value <;> exact Nat.succ_pos _
  | _ => exact Nat.succ_pos _

theorem statement_readsBack (unchecked : settings.options = .none) (count : Nat) :
    StatementReadsBack settings count := by
  induction count with
  | zero =>
    intro site layout line last node rest s fits legal h
    have deep := statement_levels_pos legal
    omega
  | succ count ih =>
    intro site layout line last node rest s fits legal h
    obtain ⟨token, tokens, starts, opens⟩ := statement_cons legal layout line
    refine gives_nested h fun t ht => ?_
    -- a semicolon alone would be an empty statement
    have notAlone : token.isOperator ";" = false := opens.not_operator (by decide)
    rw [starts, List.cons_append] at ht
    refine (gives_acceptOperator_false ht notAlone).bind fun u hu => ?_
    rw [← List.cons_append, ← starts] at hu
    rw [if_neg (by decide)]
    refine (gives_unterminated (expression_readsBack unchecked count) ih unchecked fits legal
      hu).bind fun v hv => ?_
    exact (gives_acceptOperator hv rfl).bind fun w hw => .pure hw

theorem gives_settled {p : Parser Node} (h : Gives p s node Q) : Gives p.settled s node Q := by
  obtain ⟨t, run, q⟩ := h
  exact ⟨t, run_settled_eq_ok.2 run, q⟩

theorem gives_topLevel (readsBack : StatementReadsBack settings count) (read : List Node)
    {nodes : List Node} {rounds : Nat} {ending : Token} (ended : ending.isEof = true)
    (fits : levelsOf nodes ≤ count) (legal : areStatements site nodes = true)
    (enough : nodes.length < rounds)
    (h : At settings count (statements layout line nodes ++ ending :: rest) (Recorded site) s) :
    Gives (topLevel (Parser.statement settings count) read rounds) s (read.reverse ++ nodes)
      (At settings count (ending :: rest) (Recorded (site.after (Node.assignmentsOf nodes)))) := by
  induction nodes generalizing read rounds s site layout line with
  | nil =>
    obtain ⟨rounds, rfl⟩ := Nat.exists_eq_add_one.2 (Nat.zero_lt_of_lt enough)
    refine (gives_current h).bind fun t ht => ?_
    rw [if_pos ended, List.append_nil, Node.assignmentsOf, after_nil]
    exact .pure ht
  | cons first others ih =>
    obtain ⟨rounds, rfl⟩ := Nat.exists_eq_add_one.2 (Nat.zero_lt_of_lt enough)
    rw [levelsOf] at fits
    rw [areStatements, Bool.and_eq_true] at legal
    obtain ⟨token, tokens, starts, opens⟩ := statement_cons legal.1 (layout.part 0) line
    rw [statements, List.append_assoc, List.cons_append] at h
    refine (gives_current_append starts h).bind fun t ht => ?_
    rw [if_neg (by simp [opens.not_eof])]
    refine (gives_settled (readsBack site _ line _ first _ t (by omega) legal.1 ht)).bind
      fun u hu => ?_
    have later := ih (first :: read) (by omega) legal.2 (Nat.lt_of_succ_lt_succ enough) hu
    rw [after_after, ← Node.assignmentsOf] at later
    rwa [List.reverse_cons, List.append_assoc] at later

theorem complete_program (layout : Layout) (nodes : List Node) :
    Cursor.complete (program layout nodes) = program layout nodes := by
  unfold Cursor.complete program
  rw [List.getLast?_concat]
  rfl

/--
Every program, written in any layout, is read back as the same program under the default options,
if what is written nests no deeper than may be.
-/
theorem parse_program (layout : Layout) (nodes : List Node)
    (legal : areStatements .start nodes = true) (fits : levelsOf nodes ≤ defaultLimit) :
    (parse .none (program layout nodes)).result = .ok (.program nodes) := by
  set settings := settingsFor defaultLimit .none (program layout nodes)
  have first : At settings defaultLimit
      (statements layout 1 nodes ++ [Token.eof (heights nodes + 1)]) (Recorded .start)
      (start .initial (program layout nodes)) := by
    refine ⟨?_, Nat.le_of_eq (Nat.zero_add _), ?_, Recorded.initial⟩
    · change (Cursor.ofList _ _).remaining = _
      rw [Cursor.ofList_remaining, complete_program]
      rfl
    · change _ ≤ (Cursor.complete _).length + 1
      rw [complete_program]
      exact Nat.le_succ _
  have enough : nodes.length < settings.bound := by
    have few := first.few
    have long := length_le_statements layout 1 nodes
    rw [List.length_append, List.length_singleton] at few
    omega
  have read : Gives (reader defaultLimit .none (program layout nodes))
      (start .initial (program layout nodes)) (.program nodes) fun _ => True := by
    refine (gives_note _ first).bind fun s hs => ?_
    refine (gives_topLevel (statement_readsBack rfl defaultLimit) [] rfl fits legal enough
      hs).bind fun t ht => ?_
    exact (gives_note _ ht).bind fun u _ => .pure trivial
  obtain ⟨u, run, -⟩ := read
  exact congrArg Prod.fst run

theorem parse_program_nested :
    (parse .none (program (fun path => ⟨path.length % 2 == 1, path.length == 3, path == []⟩)
      [.assignment "x" (.integer (-9223372036854775808)) (some "INT"),
        .functionDefinition "f" ["a", "b"]
          [.controlStatement .return (some (.binaryOperation "AND" (.identifier "a")
            (.binaryOperation "<" (.identifier "b")
              (.time (Float.ofBits 0xBFF8000000000000) "s"))))],
        .whileLoop (.identifier "x")
          [.ifStatement (.identifier "x") [.update "y" "++" true]
            [.functionCall "f" [.identifier "x", .boolean true]] [[.controlStatement .break none]]
            (some [.ifStatement (.string "z") [] [] [] none])]])).result =
      .ok (.program
      [.assignment "x" (.integer (-9223372036854775808)) (some "INT"),
        .functionDefinition "f" ["a", "b"]
          [.controlStatement .return (some (.binaryOperation "AND" (.identifier "a")
            (.binaryOperation "<" (.identifier "b")
              (.time (Float.ofBits 0xBFF8000000000000) "s"))))],
        .whileLoop (.identifier "x")
          [.ifStatement (.identifier "x") [.update "y" "++" true]
            [.functionCall "f" [.identifier "x", .boolean true]] [[.controlStatement .break none]]
            (some [.ifStatement (.string "z") [] [] [] none])]]) :=
  parse_program _ _ (by decide +kernel) (by decide)

end DeskScript.Printer
