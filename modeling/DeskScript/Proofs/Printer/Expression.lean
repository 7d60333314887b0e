import DeskScript.Proofs.Parser.Success
import DeskScript.Proofs.Printer.Basic

/-!
Expressions that are written are read back. An operand is one primary, in parentheses if it is an
operation, so precedence never decides anything; what does matter is the token that follows, which
must not turn a variable into a call or an update.
-/

namespace DeskScript.Printer

open DeskScript.Grammar DeskScript.Parser

variable {settings : Settings} {count line least : Nat} {s : State} {node : Node}
variable {inner : Parser Node} {follow : Token} {rest : List Token} {K : Tracker → Prop}

def Apart (line : Nat) (follow : Token) : Prop :=
  follow.isOperator "(" = false ∧ (follow.isStep && follow.line == line) = false

def Ends (line : Nat) (follow : Token) : Prop :=
  Apart line follow ∧ follow.precedence? = none

/-- With so many levels, what is written as an expression is read back. -/
def ReadsBack (settings : Settings) (count : Nat) : Prop :=
  ∀ line node follow rest K s, levels node ≤ count → isExpression node = true →
    Ends line follow → At settings count (expression line node ++ follow :: rest) K s →
    Gives (Parser.expression settings count 1) s node (At settings count (follow :: rest) K)

theorem isKeyword_word (line : Nat) (text other : String) :
    (word line text).isKeyword other = Text.sameWord text other := rfl

theorem isKeyword_self (line : Nat) (text : String) : (word line text).isKeyword text = true := by
  rw [isKeyword_word, Text.sameWord, beq_self_eq_true]

theorem gives_literal {kind : Token.Kind} {text : String} {Q : State → Prop}
    (numeral : Numeral text kind node) (h : Q s) :
    Gives (literal kind text line) s node Q := by
  cases numeral with
  | integer read | float read | time read =>
    unfold literal
    dsimp only
    rw [read]
    exact .pure h

theorem numeric_of_numeral {kind : Token.Kind} {text : String}
    (numeral : Numeral text kind node) : kind.isNumeric = true := by
  cases numeral <;> rfl

theorem gives_unsigned {kind : Token.Kind} {text : String} (numeral : Numeral text kind node)
    (h : At settings count (⟨kind, some text, line⟩ :: rest) K s) :
    Gives (primary settings inner) s node (At settings count rest K) := by
  refine (gives_current h).bind fun t ht => ?_
  have goesOn : (⟨kind, some text, line⟩ : Token).isEof = false :=
    Token.not_eof_of_numeric (numeric_of_numeral numeral)
  have read : Gives (do advance; literal kind text line) t node (At settings count rest K) :=
    (gives_advance ht goesOn).bind fun u hu => gives_literal numeral hu
  cases numeral <;> exact read

theorem gives_negated {kind : Token.Kind} {text : String}
    (numeral : Numeral ("-" ++ text) kind node)
    (h : At settings count (sign line "-" :: ⟨kind, some text, line⟩ :: rest) K s) :
    Gives (primary settings inner) s node (At settings count rest K) := by
  have numeric := numeric_of_numeral numeral
  refine (gives_current h).bind fun t ht => ?_
  change Gives negated t node _
  refine (gives_advance ht rfl).bind fun u hu => ?_
  refine (gives_current hu).bind fun v hv => ?_
  dsimp only
  rw [if_pos numeric]
  exact (gives_advance hv (Token.not_eof_of_numeric numeric)).bind fun w hw =>
    gives_literal numeral hw

theorem gives_number {kind : Token.Kind} {negative : Bool} {digits : List Char}
    (numeral : Numeral (Decimal.signed negative digits) kind node)
    (h : At settings count (number line kind negative digits ++ rest) K s) :
    Gives (primary settings inner) s node (At settings count rest K) := by
  cases negative with
  | false => exact gives_unsigned numeral h
  | true => exact gives_negated numeral h

theorem gives_requireVariable {text : String} (unchecked : settings.options = .none)
    {Q : State → Prop} (h : Q s) : Gives (requireVariable settings text) s () Q := by
  refine ⟨s, ?_, h⟩
  rw [requireVariable, run_bind_of_ok (run_scopes s), unchecked]
  rfl

theorem gives_checkCall {text : String} {given : Nat} (unchecked : settings.options = .none)
    {Q : State → Prop} (h : Q s) : Gives (checkCall settings text given line) s () Q := by
  refine ⟨s, ?_, h⟩
  rw [checkCall, run_bind_of_ok (run_scopes s), unchecked]
  rfl

theorem gives_variable {text : String} (unchecked : settings.options = .none)
    (apart : Apart line follow) (h : At settings count (name line text :: follow :: rest) K s) :
    Gives (primary settings inner) s (.identifier text) (At settings count (follow :: rest) K) := by
  refine (gives_current h).bind fun t ht => ?_
  change Gives (named settings inner) t _ _
  refine (gives_current ht).bind fun u hu => (gives_advance hu rfl).bind fun v hv => ?_
  refine (gives_current hv).bind fun w hw => ?_
  -- what follows makes it neither a call nor an update
  rw [if_neg (by simp [apart.1])]
  refine (gives_requireVariable unchecked hw).bind fun x hx => ?_
  refine (gives_current hx).bind fun y hy => ?_
  rw [if_neg (by rw [Bool.not_eq_true]; exact apart.2)]
  exact .pure hy

theorem step_of_mem {operation : String} (known : steps.contains operation = true) (line : Nat) :
    (sign line operation).isStep = true ∧ (sign line operation).isOperator "(" = false ∧
      (sign line operation).isOperator "-" = false := by
  have cases : operation = "++" ∨ operation = "--" := by simpa [steps] using known
  rcases cases with rfl | rfl <;> exact ⟨rfl, rfl, rfl⟩

theorem gives_updateAfter {text operation : String} (unchecked : settings.options = .none)
    (known : steps.contains operation = true)
    (h : At settings count (name line text :: sign line operation :: rest) K s) :
    Gives (primary settings inner) s (.update text operation false)
      (At settings count rest K) := by
  obtain ⟨step, notCall, -⟩ := step_of_mem known line
  refine (gives_current h).bind fun t ht => ?_
  change Gives (named settings inner) t _ _
  refine (gives_current ht).bind fun u hu => (gives_advance hu rfl).bind fun v hv => ?_
  refine (gives_current hv).bind fun w hw => ?_
  rw [if_neg (by simp [notCall])]
  refine (gives_requireVariable unchecked hw).bind fun x hx => ?_
  refine (gives_current hx).bind fun y hy => ?_
  rw [if_pos (by rw [step]; exact beq_self_eq_true line)]
  exact (gives_advance hy rfl).bind fun z hz => .pure hz

theorem gives_updateBefore {text operation : String} (unchecked : settings.options = .none)
    (h : At settings count (sign line operation :: name line text :: rest) K s) :
    Gives (updateBefore settings) s (.update text operation true) (At settings count rest K) := by
  refine (gives_current h).bind fun t ht => (gives_advance ht rfl).bind fun u hu => ?_
  refine (gives_expectIdentifier hu rfl).bind fun v hv => ?_
  exact (gives_requireVariable unchecked hv).bind fun w hw => .pure hw

theorem gives_stepped {text operation : String} (unchecked : settings.options = .none)
    (known : steps.contains operation = true)
    (h : At settings count (sign line operation :: name line text :: rest) K s) :
    Gives (primary settings inner) s (.update text operation true) (At settings count rest K) := by
  obtain ⟨step, notOpening, notMinus⟩ := step_of_mem known line
  refine (gives_current h).bind fun t ht => ?_
  dsimp only [sign]
  rw [if_neg (by rw [Bool.not_eq_true]; exact notOpening),
    if_neg (by rw [Bool.not_eq_true]; exact notMinus), if_pos (by exact step)]
  exact gives_updateBefore unchecked ht

theorem length_le_arguments (line : Nat) (nodes : List Node) :
    nodes.length ≤ (arguments line nodes).length := by
  induction nodes with
  | nil => exact Nat.zero_le _
  | cons first others ih =>
    rw [arguments, List.length_cons, List.length_cons, List.length_append]
    omega

theorem ends_closing (line : Nat) : Ends line (sign line ")") :=
  ⟨⟨rfl, rfl⟩, rfl⟩

theorem ends_comma (line : Nat) : Ends line (sign line ",") :=
  ⟨⟨rfl, rfl⟩, rfl⟩

theorem gives_commaList (readsBack : ReadsBack settings count) (read : List Node) {first : Node}
    {others : List Node} {rounds : Nat} (fits : levelsOf (first :: others) ≤ count)
    (legal : areExpressions (first :: others) = true) (enough : others.length < rounds)
    (h : At settings count
      (expression line first ++ (arguments line others ++ sign line ")" :: rest)) K s) :
    Gives (commaList (Parser.expression settings count 1) read rounds) s
      (read.reverse ++ first :: others) (At settings count (sign line ")" :: rest) K) := by
  induction others generalizing first read rounds s with
  | nil =>
    obtain ⟨rounds, rfl⟩ := Nat.exists_eq_add_one.2 (Nat.zero_lt_of_lt enough)
    rw [levelsOf] at fits
    rw [areExpressions, Bool.and_eq_true] at legal
    refine (readsBack line first _ _ K s (by omega) legal.1 (ends_closing line) h).bind
      fun t ht => ?_
    refine (gives_acceptOperator_false ht rfl).bind fun u hu => ?_
    rw [if_neg (by decide), ← List.reverse_cons]
    exact .pure hu
  | cons second others ih =>
    obtain ⟨rounds, rfl⟩ := Nat.exists_eq_add_one.2 (Nat.zero_lt_of_lt enough)
    rw [levelsOf] at fits
    rw [areExpressions, Bool.and_eq_true] at legal
    rw [arguments, List.cons_append, List.append_assoc] at h
    refine (readsBack line first _ _ K s (by omega) legal.1 (ends_comma line) h).bind
      fun t ht => ?_
    -- the comma after an argument is what makes the list go on
    refine (gives_acceptOperator ht rfl).bind fun u hu => ?_
    rw [if_pos rfl]
    have later := ih (first :: read) (by omega) legal.2 (Nat.lt_of_succ_lt_succ enough) hu
    rwa [List.reverse_cons, List.append_assoc] at later

def argumentList (line : Nat) : List Node → List Token
  | [] => []
  | first :: others => expression line first ++ arguments line others

theorem expression_call (text : String) (nodes : List Node) :
    expression line (.functionCall text nodes) =
      name line text :: sign line "(" :: (argumentList line nodes ++ [sign line ")"]) := by
  cases nodes with
  | nil => rfl
  | cons first others => rw [expression, argumentList, List.append_assoc]

def Opens (token : Token) : Prop :=
  token.startsExpression = true ∧ token.isOperator ")" = false

theorem number_cons {kind : Token.Kind} (numeric : kind.isNumeric = true) (line : Nat)
    (negative : Bool) (digits : List Char) :
    ∃ token tokens, number line kind negative digits = token :: tokens ∧ token.line = line ∧
      Opens token := by
  cases negative with
  | true => exact ⟨_, _, rfl, rfl, rfl, rfl⟩
  | false =>
    refine ⟨_, _, rfl, rfl, ?_⟩
    cases kind <;> first | exact ⟨rfl, rfl⟩ | cases numeric

theorem atom_cons (atom : isOperation node = false) (legal : isExpression node = true)
    (line : Nat) :
    ∃ token tokens, expression line node = token :: tokens ∧ token.line = line ∧ Opens token := by
  cases node with
  | binaryOperation => cases atom
  | identifier | string => exact ⟨_, _, rfl, rfl, rfl, rfl⟩
  | integer value => exact number_cons rfl line _ _
  | float value => exact number_cons rfl line _ _
  | time value unit => exact number_cons rfl line _ _
  | boolean value =>
    refine ⟨_, _, rfl, rfl, ?_, rfl⟩
    change ((word line _).isKeyword "TRUE" || (word line _).isKeyword "FALSE") = true
    rw [isKeyword_word, isKeyword_word]
    cases value <;> decide
  | functionCall text nodes => exact ⟨_, _, expression_call text nodes, rfl, rfl, rfl⟩
  | update text operation before =>
    cases before with
    | false => exact ⟨_, _, rfl, rfl, rfl, rfl⟩
    | true =>
      have cases : operation = "++" ∨ operation = "--" := by
        simpa [isExpression, steps] using legal
      rcases cases with rfl | rfl <;> exact ⟨_, _, rfl, rfl, rfl, rfl⟩
  | _ => cases legal

theorem expression_cons (legal : isExpression node = true) (line : Nat) :
    ∃ token tokens, expression line node = token :: tokens ∧ token.line = line ∧ Opens token := by
  cases atom : isOperation node with
  | false => exact atom_cons atom legal line
  | true =>
    cases node with
    | binaryOperation text left right =>
      simp only [isExpression, Bool.and_eq_true] at legal
      rw [expression, operand]
      split
      next => exact ⟨_, _, rfl, rfl, rfl, rfl⟩
      next plain =>
        obtain ⟨token, tokens, starts, place, opens⟩ :=
          atom_cons (by simpa using plain) legal.1.2 line
        exact ⟨token, _, by rw [starts, List.cons_append], place, opens⟩
    | _ => cases atom

theorem gives_arguments (readsBack : ReadsBack settings count) {nodes : List Node}
    (fits : levelsOf nodes ≤ count) (legal : areExpressions nodes = true)
    (h : At settings count (argumentList line nodes ++ sign line ")" :: rest) K s) :
    Gives (Parser.arguments settings (Parser.expression settings count 1)) s nodes
      (At settings count (sign line ")" :: rest) K) := by
  cases nodes with
  | nil =>
    refine (gives_current h).bind fun t ht => ?_
    rw [if_pos (by rfl)]
    exact .pure ht
  | cons first others =>
    have few := h.few
    have long := length_le_arguments line others
    rw [argumentList, List.append_assoc] at h few
    simp only [List.length_append, List.length_cons] at few
    obtain ⟨token, tokens, starts, -, -, notClosing⟩ :=
      expression_cons (Bool.and_eq_true_iff.1 legal).1 line
    refine (gives_current_append starts h).bind fun t ht => ?_
    rw [if_neg (by simp [notClosing])]
    exact gives_commaList readsBack [] fits legal (by omega) ht

theorem gives_call (readsBack : ReadsBack settings count) (unchecked : settings.options = .none)
    {text : String} {nodes : List Node} (fits : levelsOf nodes ≤ count)
    (legal : areExpressions nodes = true)
    (h : At settings count
      (sign line "(" :: (argumentList line nodes ++ sign line ")" :: rest)) K s) :
    Gives (call settings (Parser.expression settings count 1) text) s (.functionCall text nodes)
      (At settings count rest K) := by
  refine (gives_previousLine h).bind fun t ht => (gives_advance ht rfl).bind fun u hu => ?_
  refine (gives_arguments readsBack fits legal hu).bind fun v hv => ?_
  refine (gives_expectOperator hv rfl).bind fun w hw => ?_
  exact (gives_checkCall unchecked hw).bind fun x hx => .pure hx

theorem gives_calling (readsBack : ReadsBack settings count) (unchecked : settings.options = .none)
    {text : String} {nodes : List Node} (fits : levelsOf nodes ≤ count)
    (legal : areExpressions nodes = true)
    (h : At settings count (expression line (.functionCall text nodes) ++ rest) K s) :
    Gives (primary settings (Parser.expression settings count 1)) s (.functionCall text nodes)
      (At settings count rest K) := by
  rw [expression_call, List.cons_append, List.cons_append, List.append_assoc] at h
  refine (gives_current h).bind fun t ht => ?_
  change Gives (named settings _) t _ _
  refine (gives_current ht).bind fun u hu => (gives_advance hu rfl).bind fun v hv => ?_
  refine (gives_current hv).bind fun w hw => ?_
  rw [if_pos (by rfl)]
  exact gives_call readsBack unchecked fits legal hw

theorem gives_enclosed (readsBack : ReadsBack settings count) (fits : levels node ≤ count)
    (legal : isExpression node = true)
    (h : At settings count
      (sign line "(" :: (expression line node ++ sign line ")" :: rest)) K s) :
    Gives (primary settings (Parser.expression settings count 1)) s node
      (At settings count rest K) := by
  refine (gives_current h).bind fun t ht => ?_
  change Gives (enclosed _) t _ _
  refine (gives_advance ht rfl).bind fun u hu => ?_
  refine (readsBack line node _ _ K u fits legal (ends_closing line) hu).bind fun v hv => ?_
  exact (gives_expectOperator hv rfl).bind fun w hw => .pure hw

theorem gives_boolean {value : Bool}
    (h : At settings count (word line (if value then "TRUE" else "FALSE") :: rest) K s) :
    Gives (primary settings inner) s (.boolean value) (At settings count rest K) := by
  refine (gives_current h).bind fun t ht => ?_
  dsimp only [word]
  cases value with
  | true =>
    rw [if_pos (by exact isKeyword_self line "TRUE")]
    exact (gives_advance ht rfl).bind fun u hu => .pure hu
  | false =>
    have other : (word line "FALSE").isKeyword "TRUE" = false := by
      rw [isKeyword_word]
      decide
    rw [if_neg (by rw [Bool.not_eq_true]; exact other),
      if_pos (by exact isKeyword_self line "FALSE")]
    exact (gives_advance ht rfl).bind fun u hu => .pure hu

theorem gives_primary (readsBack : ReadsBack settings count) (unchecked : settings.options = .none)
    (fits : operandLevels node (levels node) ≤ count + 1) (legal : isExpression node = true)
    (apart : Apart line follow)
    (h : At settings count (operand line node (expression line node) ++ follow :: rest) K s) :
    Gives (primary settings (Parser.expression settings count 1)) s node
      (At settings count (follow :: rest) K) := by
  cases node with
  | binaryOperation text left right =>
    rw [operand, if_pos (by rfl), List.cons_append, List.cons_append, List.append_assoc] at h
    exact gives_enclosed readsBack (Nat.le_of_succ_le_succ fits) legal h
  | identifier text => exact gives_variable unchecked apart h
  | integer value => exact gives_number (.integer (Decimal.readInt64?_written value)) h
  | float value => exact gives_number (.float (Decimal.readFloat?_written legal)) h
  | time value unit =>
    rw [isExpression, Bool.and_eq_true, beq_iff_eq] at legal
    obtain ⟨finite, rfl⟩ := legal
    exact gives_number (.time (Decimal.readFloat?_written finite)) h
  | string text =>
    refine (gives_current h).bind fun t ht => ?_
    exact (gives_advance ht rfl).bind fun u hu => .pure hu
  | boolean value => exact gives_boolean h
  | functionCall text nodes =>
    exact gives_calling readsBack unchecked (Nat.le_of_succ_le_succ fits) legal h
  | update text operation before =>
    cases before with
    | true => exact gives_stepped unchecked legal h
    | false => exact gives_updateAfter unchecked legal h
  | _ => cases legal

theorem levels_pos (node : Node) (legal : isExpression node = true) : 0 < levels node := by
  cases node with
  | binaryOperation => exact Nat.lt_of_lt_of_le (Nat.succ_pos _) (Nat.le_max_right _ _)
  | integer | float | time | string | boolean | identifier | functionCall | update =>
    exact Nat.succ_pos _
  | _ => cases legal

theorem precedence_or (line : Nat) : (word line "OR").precedence? = some 1 := by
  dsimp only [Token.precedence?, word]
  rw [if_pos (by exact isKeyword_self line "OR")]

theorem precedence_and (line : Nat) : (word line "AND").precedence? = some 2 := by
  have other : (word line "AND").isKeyword "OR" = false := by
    rw [isKeyword_word]
    decide
  dsimp only [Token.precedence?, word]
  rw [if_neg (by rw [Bool.not_eq_true]; exact other),
    if_pos (by exact isKeyword_self line "AND")]

theorem operatorName_word {text : String} (upper : Text.upper text = text) (line : Nat) :
    (word line text).operatorName = text :=
  upper

theorem operator_of_mem {text : String} (known : operators.contains text = true) (line : Nat) :
    ∃ precedence, (operator line text).precedence? = some precedence ∧ 1 ≤ precedence ∧
      (operator line text).operatorName = text ∧ (operator line text).isEof = false ∧
      Apart line (operator line text) := by
  unfold operator
  split
  next spelled =>
    rcases spelled with rfl | rfl
    · exact ⟨2, precedence_and line, by decide, operatorName_word (by decide) line, rfl, rfl, rfl⟩
    · exact ⟨1, precedence_or line, by decide, operatorName_word (by decide) line, rfl, rfl, rfl⟩
  next spelled =>
    have listed : text ∈ operators := by simpa using known
    simp only [operators, List.mem_cons, List.not_mem_nil, or_false] at listed
    rcases listed with rfl | rfl | rfl | rfl | rfl | rfl | rfl | rfl | rfl | rfl | rfl | rfl | rfl |
      rfl | rfl
    all_goals first
      | exact ⟨_, rfl, by decide, rfl, rfl, rfl, rfl⟩
      | simp at spelled

theorem gives_noOperator {operand : Nat → Parser Node} {rounds : Nat} {left : Node}
    (some : 0 < rounds) (none : follow.precedence? = none)
    (h : At settings count (follow :: rest) K s) :
    Gives (Parser.operators operand least rounds left) s left
      (At settings count (follow :: rest) K) := by
  obtain ⟨rounds, rfl⟩ := Nat.exists_eq_add_one.2 some
  refine (gives_current h).bind fun t ht => ?_
  rw [none]
  exact .pure ht

theorem gives_operand (readsBack : ReadsBack settings count) (unchecked : settings.options = .none)
    (fits : operandLevels node (levels node) ≤ count + 1) (legal : isExpression node = true)
    (ends : Ends line follow)
    (h : At settings (count + 1) (operand line node (expression line node) ++ follow :: rest)
      K s) :
    Gives (Parser.expression settings (count + 1) least) s node
      (At settings (count + 1) (follow :: rest) K) := by
  have some : 0 < settings.bound := by
    have few := h.few
    rw [List.length_append, List.length_cons] at few
    omega
  refine gives_nested h fun t ht => ?_
  refine (gives_primary readsBack unchecked fits legal ends.1 ht).bind fun u hu => ?_
  exact gives_noOperator some ends.2 hu

theorem gives_operation (readsBack : ∀ k ≤ count, ReadsBack settings k)
    (unchecked : settings.options = .none) {text : String} {left right : Node}
    (fits : levels (.binaryOperation text left right) ≤ count + 1)
    (legal : isExpression (.binaryOperation text left right) = true) (ends : Ends line follow)
    (h : At settings (count + 1)
      (expression line (.binaryOperation text left right) ++ follow :: rest) K s) :
    Gives (Parser.expression settings (count + 1) 1) s (.binaryOperation text left right)
      (At settings (count + 1) (follow :: rest) K) := by
  simp only [isExpression, Bool.and_eq_true] at legal
  obtain ⟨⟨known, legalLeft⟩, legalRight⟩ := legal
  obtain ⟨precedence, hprecedence, binds, named, goesOn, apart⟩ := operator_of_mem known line
  rw [levels, Nat.max_le] at fits
  have deep : 0 < operandLevels right (levels right) :=
    Nat.lt_of_lt_of_le (levels_pos right legalRight) (by unfold operandLevels; split <;> omega)
  obtain ⟨k, rfl⟩ := Nat.exists_eq_add_one_of_ne_zero (show count ≠ 0 by omega)
  rw [expression, List.append_assoc, List.cons_append] at h
  -- one round takes in the operator, and one more sees that none follows
  have rounds : ∃ rounds, settings.bound = rounds + 2 := by
    have few := h.few
    rw [List.length_append, List.length_cons, List.length_append, List.length_cons] at few
    exact ⟨settings.bound - 2, by omega⟩
  obtain ⟨rounds, hrounds⟩ := rounds
  refine gives_nested h fun t ht => ?_
  refine (gives_primary (readsBack _ (Nat.le_refl _)) unchecked fits.1 legalLeft apart ht).bind
    fun u hu => ?_
  rw [hrounds]
  refine (gives_current hu).bind fun v hv => ?_
  rw [hprecedence]
  dsimp only
  rw [if_neg (by omega)]
  refine (gives_advance hv goesOn).bind fun w hw => ?_
  refine (gives_operand (readsBack k (Nat.le_succ k)) unchecked (by omega) legalRight ends hw).bind
    fun x hx => ?_
  rw [named]
  exact gives_noOperator (Nat.succ_pos _) ends.2 hx

theorem expression_readsBack (unchecked : settings.options = .none) (count : Nat) :
    ReadsBack settings count := by
  -- in parentheses there is one level less, and in the right operand of an operation two
  induction count using Nat.strong_induction_on with
  | _ count ih =>
    intro line node follow rest K s fits legal ends h
    have some := levels_pos node legal
    obtain ⟨k, rfl⟩ := Nat.exists_eq_add_one_of_ne_zero (show count ≠ 0 by omega)
    cases operation : isOperation node with
    | false =>
      have plain : operand line node (expression line node) = expression line node := by
        rw [operand, operation]
        rfl
      rw [← plain] at h
      refine gives_operand (ih k (Nat.lt_succ_self k)) unchecked ?_ legal ends h
      rwa [operandLevels, operation]
    | true =>
      cases node with
      | binaryOperation =>
        exact gives_operation (fun j le => ih j (Nat.lt_succ_of_le le)) unchecked fits legal ends h
      | _ => cases operation

end DeskScript.Printer
