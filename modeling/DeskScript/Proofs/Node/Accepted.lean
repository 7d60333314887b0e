import DeskScript.Proofs.Node.RoundTrip
import DeskScript.Proofs.Parser.Trees
import DeskScript.Proofs.Token.Reading
import DeskScript.Script

/-!
Which accepted scripts can be saved and loaded back. A text is loaded only if its brackets are not
nested too deep, and the limit on nesting in scripts does not see to that: a left operand opens a
bracket but no level. Main statements: `load_accepted` says how deep the brackets are at most, and
`accepted_not_loaded` is a script that is accepted and whose saved tree is refused.
-/

namespace DeskScript

namespace Node

variable {node : Node} {levels : Nat}

mutual

/-- The most steps into left operands on a way down from the root. -/
def leftSteps : Node → Nat
  | .binaryOperation _ left right => max (leftSteps left + 1) (leftSteps right)
  | .program nodes | .functionDefinition _ _ nodes | .functionCall _ nodes => leftStepsOf nodes
  | .assignment _ node _ | .printStatement _ node | .waitStatement node => leftSteps node
  | .moveMouse x y => max (leftSteps x) (leftSteps y)
  | .whileLoop first body | .repeatLoop first body => max (leftSteps first) (leftStepsOf body)
  | .controlStatement _ value => leftStepsOfOption value
  | .ifStatement condition thenBody conditions bodies elseBody =>
    max (max (leftSteps condition) (leftStepsOf thenBody))
      (max (leftStepsOf conditions) (max (leftStepsOfBodies bodies) (leftStepsOfBody elseBody)))
  | .keyOperation .. | .buttonOperation _ | .identifier _ | .integer _ | .float _ | .time ..
  | .string _ | .emptyStatement | .boolean _ | .update .. => 0

def leftStepsOf : List Node → Nat
  | [] => 0
  | node :: nodes => max (leftSteps node) (leftStepsOf nodes)

def leftStepsOfBodies : List (List Node) → Nat
  | [] => 0
  | body :: bodies => max (leftStepsOf body) (leftStepsOfBodies bodies)

def leftStepsOfOption : Option Node → Nat
  | none => 0
  | some node => leftSteps node

def leftStepsOfBody : Option (List Node) → Nat
  | none => 0
  | some body => leftStepsOf body

end

/-- A saved tree opens at most three brackets for each level and one for each left operand. -/
def Shallow (levels : Nat) (node : Node) : Prop :=
  node.toJson.depth ≤ 3 * levels + node.leftSteps

theorem shallow_record {kind : Kind} {parts : List Json} (saved : node.toJson = record kind parts)
    (fit : Json.itemsDepth parts ≤ 3 * levels + 2 + node.leftSteps) :
    Shallow (levels + 1) node := by
  have members : Json.membersDepth (("type", .string kind.label) :: kind.fields.zip parts) ≤
      3 * levels + 2 + node.leftSteps := by
    refine Json.membersDepth_le.2 (List.forall_mem_cons.2 ⟨Nat.zero_le _, fun member mem => ?_⟩)
    exact Json.itemsDepth_le.1 fit _ (List.of_mem_zip mem).2
  rw [Shallow, saved, record, Json.depth]
  omega

theorem Shallow.succ (shallow : node.Shallow levels) : node.Shallow (levels + 1) := by
  unfold Shallow at *
  omega

theorem itemsDepth_listToJson {nodes : List Node} (shallow : ∀ node ∈ nodes, node.Shallow levels) :
    Json.itemsDepth (listToJson nodes) ≤ 3 * levels + leftStepsOf nodes := by
  induction nodes with
  | nil => exact Nat.zero_le _
  | cons node nodes ih =>
    obtain ⟨first, others⟩ := List.forall_mem_cons.1 shallow
    have rest := ih others
    unfold Shallow at first
    rw [listToJson, Json.itemsDepth, leftStepsOf]
    omega

theorem itemsDepth_bodiesToJson {bodies : List (List Node)}
    (shallow : ∀ body ∈ bodies, ∀ node ∈ body, node.Shallow levels) :
    Json.itemsDepth (bodiesToJson bodies) ≤ 3 * levels + 1 + leftStepsOfBodies bodies := by
  induction bodies with
  | nil => exact Nat.zero_le _
  | cons body bodies ih =>
    obtain ⟨first, others⟩ := List.forall_mem_cons.1 shallow
    have rest := ih others
    have here := itemsDepth_listToJson first
    rw [bodiesToJson, Json.itemsDepth, Json.depth, leftStepsOfBodies]
    omega

theorem depth_bodyToJson {body : Option (List Node)}
    (shallow : ∀ nodes ∈ body, ∀ node ∈ nodes, node.Shallow levels) :
    (bodyToJson body).depth ≤ 3 * levels + 1 + leftStepsOfBody body := by
  cases body with
  | none => exact Nat.zero_le _
  | some nodes =>
    have inside := itemsDepth_listToJson (shallow nodes rfl)
    rw [bodyToJson, Json.depth, leftStepsOfBody]
    omega

theorem depth_optionalText (text : Option String) : (optionalText text).depth = 0 := by
  cases text <;> rfl

theorem shallow_leaf {kind : Kind} {parts : List Json} (saved : node.toJson = record kind parts)
    (flat : Json.itemsDepth parts = 0) : Shallow (levels + 1) node :=
  shallow_record saved (by omega)

theorem Expression.shallow (expression : node.Expression levels) : node.Shallow levels := by
  induction expression with
  | @literal levels node literal =>
    cases node with
    | integer | float | time | string | boolean => exact shallow_leaf rfl rfl
    | _ => simp [isLiteral] at literal
  | identifier | update => exact shallow_leaf rfl rfl
  | call _ ih =>
    have arguments := itemsDepth_listToJson ih
    refine shallow_record rfl ?_
    simp only [Json.itemsDepth, Json.depth, leftSteps]
    omega
  | enclosed _ ih => exact ih.succ
  | operation _ _ hleft hright =>
    unfold Shallow at hleft hright
    refine shallow_record rfl ?_
    simp only [Json.itemsDepth, Json.depth, leftSteps]
    omega

theorem Shallow.around {value : Node} {kind : Kind} {parts : List Json}
    (shallow : value.Shallow levels) (saved : node.toJson = record kind parts)
    (fit : Json.itemsDepth parts = value.toJson.depth) (steps : node.leftSteps = value.leftSteps) :
    node.Shallow (levels + 1) := by
  unfold Shallow at shallow
  exact shallow_record saved (by omega)

theorem shallow_construct {first : Node} {body : List Node} {kind : Kind}
    (saved : node.toJson = record kind [first.toJson, .array (listToJson body)])
    (steps : node.leftSteps = max first.leftSteps (leftStepsOf body))
    (hfirst : first.Shallow levels) (hbody : ∀ node ∈ body, node.Shallow levels) :
    node.Shallow (levels + 1) := by
  have inside := itemsDepth_listToJson hbody
  unfold Shallow at hfirst
  refine shallow_record saved ?_
  simp only [Json.itemsDepth, Json.depth]
  omega

theorem Statement.shallow (statement : node.Statement levels) : node.Shallow levels := by
  induction statement with
  | empty | key | button | update => exact shallow_leaf rfl rfl
  | call holds => exact (Expression.call holds).shallow
  | @assignment levels target value type holds =>
    refine holds.shallow.around rfl ?_ rfl
    simp [Json.itemsDepth, Json.depth, depth_optionalText]
  | print holds | wait holds =>
    refine holds.shallow.around rfl ?_ rfl
    simp [Json.itemsDepth, Json.depth]
  | move hx hy =>
    have hx := hx.shallow
    have hy := hy.shallow
    unfold Shallow at hx hy
    refine shallow_record rfl ?_
    simp only [Json.itemsDepth, leftSteps]
    omega
  | @control levels control value holds =>
    cases value with
    | none => exact shallow_leaf rfl rfl
    | some value =>
      refine (holds value rfl).shallow.around rfl ?_ rfl
      simp [optionToJson, Json.itemsDepth, Json.depth]
  | whileLoop holds _ ih | repeatLoop holds _ ih =>
    exact shallow_construct rfl rfl holds.shallow ih
  | @function levels name parameters body _ ih =>
    have inside := itemsDepth_listToJson ih
    have texts : Json.itemsDepth (parameters.map .string) ≤ 0 :=
      Json.itemsDepth_le.2 (List.forall_mem_map.2 fun _ _ => Nat.le_refl 0)
    refine shallow_record rfl ?_
    simp only [Json.itemsDepth, Json.depth, leftSteps]
    omega
  | conditional hcondition _ hconditions _ _ hthen hbodies helse =>
    have condition := hcondition.shallow
    have inThen := itemsDepth_listToJson hthen
    have conditions := itemsDepth_listToJson fun node mem => (hconditions node mem).shallow
    have bodies := itemsDepth_bodiesToJson hbodies
    have inElse := depth_bodyToJson helse
    unfold Shallow at condition
    refine shallow_record rfl ?_
    simp only [Json.itemsDepth, Json.depth, leftSteps]
    omega

end Node

namespace Parser

theorem program_shallow (settings : Settings) (levels count : Nat) :
    Yields (fun ast => ast.toJson.depth ≤ 3 * levels + ast.leftSteps + 2)
      (program settings levels count) := by
  intro s ast t ran
  obtain ⟨nodes, rfl, holds⟩ := program_yields settings levels count s ast t ran
  have inside := Node.itemsDepth_listToJson fun node mem => (holds node mem).shallow
  simp only [Node.toJson, Node.record, Node.Kind.fields, List.zip_cons_cons, List.zip_nil_left,
    Json.depth, Json.membersDepth, Node.leftSteps]
  omega

end Parser

namespace Node

theorem load_saved (ast : Node) (survive : Survive ast.doubles) :
    load ast.save = (if Json.nesting ast.save ≤ 127 then .ok ast else .error .malformed) ∧
      load ast.savePretty = load ast.save := by
  have compact := load_write ast survive .compact
  have pretty := load_write ast survive .pretty
  rw [Json.write_compact] at compact
  rw [Json.write_pretty] at pretty
  rw [save, savePretty, Json.nesting_compact, Json.compact, Json.pretty, compact, pretty]
  exact ⟨rfl, rfl⟩

/--
The saved tree of tokens that are accepted under a limit on nesting has its brackets nested at most
three times as deep as that limit, one more for each step into a left operand, and two more for the
program. If its doubles are read back from what is written for each alone, it is loaded from either
of its texts if and only if the brackets are nested at most 127 deep.
-/
theorem load_accepted (limit : Nat) (options : Options) (tokens : List Token) (ast : Node)
    (accepted : (Parser.parseFrom limit options .initial tokens).result = .ok ast)
    (survive : ∀ x ∈ ast.doubles, Json.readNumber (Json.realText x) = .ok (.real x, [])) :
    Json.nesting ast.save ≤ 3 * limit + ast.leftSteps + 2 ∧
      (load ast.save = .ok ast ∧ load ast.savePretty = .ok ast ↔ Json.nesting ast.save ≤ 127) := by
  obtain ⟨compact, pretty⟩ := load_saved ast survive
  refine ⟨?_, by rw [pretty, compact]; split <;> simp [*]⟩
  have ran : (Parser.reader limit options tokens).run (Parser.start .initial tokens) =
      (.ok ast, _) := Prod.ext accepted rfl
  rw [save, Json.nesting_compact]
  exact Parser.program_shallow _ limit _ _ ast _ ran

theorem load_accepted_sum :
    load (save (.program [.printStatement "PRINT"
        (.binaryOperation "+" (.integer 1) (.integer 2))])) =
      .ok (.program [.printStatement "PRINT"
        (.binaryOperation "+" (.integer 1) (.integer 2))]) := by
  have bounds := load_accepted 3 .none
    [⟨.keyword, some "PRINT", 1⟩, ⟨.integer, some "1", 1⟩, ⟨.operator, some "+", 1⟩,
      ⟨.integer, some "2", 1⟩]
    (.program [.printStatement "PRINT" (.binaryOperation "+" (.integer 1) (.integer 2))]) rfl
    (fun x mem => absurd mem List.not_mem_nil)
  exact (bounds.2.2 (Nat.le_trans bounds.1 (by decide))).1

def sumScript (signs : Nat) : String :=
  String.ofList
    ('P' :: 'R' :: 'I' :: 'N' :: 'T' :: ' ' :: '1' :: (List.replicate signs ['+', '1']).flatten)

def summands (signs : Nat) : List Token :=
  (List.replicate signs [⟨.operator, some "+", 1⟩, ⟨.integer, some "1", 1⟩]).flatten

open Lexer (scanFrom scanFrom_gap scanFrom_token step newlines)

theorem step_number (signs : Nat) :
    step ('1' :: (List.replicate signs ['+', '1']).flatten) =
      .token .integer "1" ['1'] (List.replicate signs ['+', '1']).flatten := by
  cases signs with
  | zero => rfl
  | succ signs => rfl

theorem scanFrom_summands (signs : Nat) (seen : List Token) :
    scanFrom seen 1 (List.replicate signs ['+', '1']).flatten =
      ⟨seen.reverse ++ summands signs, .ok 1⟩ := by
  induction signs generalizing seen with
  | zero =>
    rw [scanFrom]
    simp [step, summands]
  | succ signs ih =>
    have sign : step (List.replicate (signs + 1) ['+', '1']).flatten =
        .token .operator "+" ['+'] ('1' :: (List.replicate signs ['+', '1']).flatten) := rfl
    have same : 1 + newlines ['+'] = 1 ∧ 1 + newlines ['1'] = 1 := by decide
    rw [scanFrom_token sign, same.1, scanFrom_token (step_number signs), same.2, ih, summands,
      summands, List.replicate_succ]
    simp

theorem tokenize_sumScript (signs : Nat) :
    Lexer.tokenize (sumScript signs) =
      .ok (⟨.keyword, some "PRINT", 1⟩ :: ⟨.integer, some "1", 1⟩ :: (summands signs ++
        [.eof 1])) := by
  have word (rest : List Char) : step ('P' :: 'R' :: 'I' :: 'N' :: 'T' :: ' ' :: rest) =
      .token .keyword "PRINT" ['P', 'R', 'I', 'N', 'T'] (' ' :: rest) := by
    have letters : ('P' :: 'R' :: 'I' :: 'N' :: 'T' :: ' ' :: rest).takeWhile Lexer.isWordPart =
        ['P', 'R', 'I', 'N', 'T'] := rfl
    have reserved : Keyword.isReserved (String.ofList ['P', 'R', 'I', 'N', 'T']) = true := by decide
    change Lexer.word _ = _
    rw [Lexer.word, letters, reserved]
    rfl
  have blank : step (' ' :: '1' :: (List.replicate signs ['+', '1']).flatten) =
      .gap [' '] ('1' :: (List.replicate signs ['+', '1']).flatten) := rfl
  have same : 1 + newlines ['P', 'R', 'I', 'N', 'T'] = 1 ∧ 1 + newlines [' '] = 1 ∧
      1 + newlines ['1'] = 1 := by decide
  rw [Lexer.tokenize, Lexer.scan, sumScript, String.toList_ofList, scanFrom_token (word _), same.1,
    scanFrom_gap blank, same.2.1, scanFrom_token (step_number signs), same.2.2, scanFrom_summands]
  rfl

/-- A script that prints a sum of 125 numbers is accepted, and its saved tree is refused. -/
theorem accepted_not_loaded :
    ∃ ast, (Script.read .none (sumScript 124)).result = .ok ast ∧ ast.doubles = [] ∧
      load ast.save = .error .malformed ∧ load ast.savePretty = .error .malformed := by
  have evaluated : (Parser.parse .none (⟨.keyword, some "PRINT", 1⟩ ::
      ⟨.integer, some "1", 1⟩ :: (summands 124 ++ [.eof 1]))).result.toOption.map
      (fun ast => (ast.doubles.isEmpty, ast.toJson.depth)) = some (true, 128) := by decide +kernel
  rw [Script.read, tokenize_sumScript]
  dsimp only
  generalize (Parser.parse .none _).result = result at evaluated ⊢
  cases result with
  | error d => simp [Except.toOption] at evaluated
  | ok ast =>
    obtain ⟨none, deep⟩ : ast.doubles = [] ∧ ast.toJson.depth = 128 := by
      simpa [Except.toOption] using evaluated
    obtain ⟨compact, pretty⟩ := load_saved ast (by simp [Survive, none])
    rw [save, Json.nesting_compact, deep] at compact
    exact ⟨ast, rfl, none, compact, pretty.trans compact⟩

end Node

end DeskScript
