import DeskScript.Proofs.Parser.Numbers
import DeskScript.Proofs.Token.Faults

/-!
The range of integers. The tokenizer lets digits through if their value is one of 64 bits without a
sign, and the parser if it is one of 64 bits with the sign it has. A minus sign belongs to the
literal only where an operand starts; after an operand it is an operator, and the digits behind it
are read without it. Main statement: `integer_range`.
-/

namespace DeskScript

open Text (isDigit)
open Decimal (readInt? valueOf)

structure Diagnostic.Exceeds (d : Diagnostic) (text : String) (line : Nat) : Prop where
  cause : d.cause = .integerOutOfRange text
  kind : d.kind = .number
  line : d.line = line

theorem exceeds_integerOutOfRange (text : String) (line : Nat) :
    Diagnostic.Exceeds ⟨.integerOutOfRange text, line⟩ text line :=
  ⟨rfl, rfl, rfl⟩

namespace Lexer

variable {digits before rest : List Char} {earlier : List Token}

theorem scanFrom_tokens (seen : List Token) (line : Nat) (text : List Char) :
    ∃ later, (scanFrom seen line text).tokens = seen.reverse ++ later := by
  fun_induction scanFrom seen line text with
  | case1 => exact ⟨[], by simp⟩
  | case2 _ _ _ _ _ _ _ ih => exact ih
  | case3 _ _ _ kind value _ _ _ _ ih =>
    obtain ⟨later, read⟩ := ih
    rw [read, List.reverse_cons, List.append_assoc]
    exact ⟨_, rfl⟩
  | case4 => exact ⟨[], by simp⟩

theorem digits_of_all (some : digits ≠ []) (all : ∀ c ∈ digits, isDigit c = true)
    (beyond : ∀ c ∈ rest.head?, isNumberPart c = false) : Digits digits rest := by
  obtain ⟨c, more, rfl⟩ := List.exists_cons_of_ne_nil some
  refine ⟨⟨c, more, rfl, all c List.mem_cons_self⟩, fun d mem => ?_, beyond⟩
  rw [isNumberPart, all d mem, Bool.true_or]

theorem count_point_of_all (all : ∀ c ∈ digits, isDigit c = true) : digits.count '.' = 0 :=
  List.count_eq_zero.2 fun mem => absurd (all _ mem) (by decide)

theorem step_of_all (some : digits ≠ []) (all : ∀ c ∈ digits, isDigit c = true)
    (beyond : ∀ c ∈ rest.head?, isNumberPart c = false) (apart : ∀ unit, ¬ UnitAt unit rest) :
    step (digits ++ rest) =
      if valueOf digits < 2 ^ 64 then .token .integer (String.ofList digits) digits rest
      else .fault (.integerOutOfRange (String.ofList digits)) := by
  rw [step_of_digits (digits_of_all some all beyond), unitAt?_eq_none apart,
    number_of_digits (count_point_of_all all)]
  by_cases small : valueOf digits < 2 ^ 64
  · rw [if_pos small, if_pos small]
    simp [suffixOf]
  · rw [if_neg small, if_neg small]

theorem scan_integer (some : digits ≠ []) (all : ∀ c ∈ digits, isDigit c = true)
    (opening : Opening 1 before (digits ++ rest) earlier)
    (beyond : ∀ c ∈ rest.head?, isNumberPart c = false) (apart : ∀ unit, ¬ UnitAt unit rest) :
    ((∃ later, (scan (String.ofList (before ++ (digits ++ rest)))).tokens = earlier ++
        ⟨.integer, String.ofList digits, 1 + newlines before⟩ :: later) ↔
      valueOf digits < 2 ^ 64) ∧
    (¬ valueOf digits < 2 ^ 64 →
      ∃ d, tokenize (String.ofList (before ++ (digits ++ rest))) = .error d ∧
        d.Exceeds (String.ofList digits) (1 + newlines before)) := by
  have step := step_of_all some all beyond apart
  have scanned := opening.scanFrom_eq []
  rw [List.append_nil] at scanned
  rw [scan, String.toList_ofList, scanned]
  -- if it has room it is a token, with others after it; if not, it is the last thing met
  by_cases small : valueOf digits < 2 ^ 64
  · rw [if_pos small] at step
    obtain ⟨later, read⟩ := scanFrom_tokens
      (⟨.integer, String.ofList digits, 1 + newlines before⟩ :: earlier.reverse)
      (1 + newlines before + newlines digits) rest
    refine ⟨⟨fun _ => small, fun _ => ⟨later, ?_⟩⟩, fun large => absurd small large⟩
    rw [scanFrom_token step, read]
    simp
  · rw [if_neg small] at step
    rw [scanFrom_fault step] at scanned ⊢
    refine ⟨⟨?_, fun large => absurd large small⟩, fun _ => ?_⟩
    · rintro ⟨later, read⟩
      simp at read
    · refine ⟨_, tokenize_eq_error.2 ?_, exceeds_integerOutOfRange _ _⟩
      rw [scan, String.toList_ofList, scanned]

end Lexer

namespace Parser

variable {settings : Settings} {inner : Parser Node} {s : State} {text : String} {line : Nat}

structure ReadsInteger (result : Except Diagnostic Node) (value : Int) (fits : Prop)
    (text : String) (line : Nat) : Prop where
  read : (∃ n : Int64, n.toInt = value ∧ result = .ok (.integer n)) ↔ fits
  refused : ¬ fits → ∃ d, result = .error d ∧ d.Exceeds text line

theorem readInt64?_of_readInt? {n : Int} (read : readInt? text = some n) :
    (-2 ^ 63 ≤ n ∧ n < 2 ^ 63 → ∃ value : Int64, value.toInt = n ∧ readInt64? text = some value) ∧
      (¬ (-2 ^ 63 ≤ n ∧ n < 2 ^ 63) → readInt64? text = none) := by
  have value : readInt64? text = Decimal.toInt64? n := by
    rw [readInt64?, read, Option.bind_some]
  refine ⟨fun inside => ⟨Int64.ofInt n, ?_, ?_⟩, fun outside => ?_⟩
  · exact Int64.toInt_ofInt_of_le inside.1 inside.2
  · rw [value]
    exact if_pos inside
  · rw [value]
    exact if_neg outside

theorem readsInteger_literal {n : Int} {fits : Prop} (read : readInt? text = some n)
    (range : fits ↔ -2 ^ 63 ≤ n ∧ n < 2 ^ 63) (line : Nat) (s : State) :
    ((literal .integer text line).run s).2 = s ∧
      ReadsInteger ((literal .integer text line).run s).1 n fits text line := by
  obtain ⟨within, without⟩ := readInt64?_of_readInt? read
  by_cases holds : fits
  · obtain ⟨value, same, read⟩ := within (range.1 holds)
    rw [literal_integer read, run_pure]
    exact ⟨rfl, ⟨fun _ => holds, fun _ => ⟨value, same, rfl⟩⟩, fun outside => absurd holds outside⟩
  · rw [literal_refused (without (mt range.2 holds)), run_fail]
    refine ⟨rfl, ⟨?_, fun inside => absurd inside holds⟩, fun _ => ?_⟩
    · rintro ⟨n, -, ⟨⟩⟩
    · exact ⟨_, rfl, exceeds_integerOutOfRange _ _⟩

def State.AtInteger (s : State) (text : String) (line : Nat) : Prop :=
  s.cursor.current = ⟨.integer, some text, line⟩

def State.AtMinus (s : State) (text : String) (line : Nat) : Prop :=
  (∃ signLine, s.cursor.current = ⟨.operator, some "-", signLine⟩) ∧
    s.cursor.next? = some ⟨.integer, some text, line⟩

theorem State.AtMinus.advance (minus : s.AtMinus text line) : s.advance.AtInteger text line := by
  obtain ⟨⟨signLine, sign⟩, next⟩ := minus
  have goesOn : s.cursor.current.isEof = false := by rw [sign]; rfl
  exact Option.some.inj ((Cursor.next?_eq_some goesOn).symm.trans next)

theorem run_primary_integer (digits : s.AtInteger text line) :
    (primary settings inner).run s = (literal .integer text line).run s.advance := by
  unfold primary
  rw [run_bind_of_ok (run_current s), digits]
  rfl

theorem run_primary_minus (minus : s.AtMinus text line) :
    (primary settings inner).run s =
      (literal .integer ("-" ++ text) line).run s.advance.advance := by
  have digits := minus.advance
  obtain ⟨⟨signLine, sign⟩, -⟩ := minus
  have signed : (primary settings inner).run s = negated.run s := by
    unfold primary
    rw [run_bind_of_ok (run_current s), sign]
    rfl
  rw [signed, negated, run_bind_of_ok (run_advance s), run_bind_of_ok (run_current _), digits]
  rfl

theorem run_operators_minus {operand : Nat → Parser Node} {least rounds : Nat} {left : Node}
    (minus : s.AtMinus text line) (binds : least ≤ 5) :
    (operators operand least (rounds + 1) left).run s =
      (operand 6 >>= fun right =>
        operators operand least rounds (.binaryOperation "-" left right)).run s.advance := by
  obtain ⟨⟨signLine, sign⟩, -⟩ := minus
  have level : Token.precedence? ⟨.operator, some "-", signLine⟩ = some 5 := rfl
  have name : Token.operatorName ⟨.operator, some "-", signLine⟩ = "-" := rfl
  rw [operators, run_bind_of_ok (run_current s), sign, level, name]
  dsimp only
  rw [if_neg (Nat.not_lt.2 binds), run_bind_of_ok (run_advance s)]

theorem run_expression_integer {levels least : Nat} {n : Int64} (digits : s.AtInteger text line)
    (room : s.depth < settings.limit) (read : readInt64? text = some n) :
    (expression settings (levels + 1) least).run s =
      (nested settings (operators (expression settings levels) least settings.bound
        (.integer n))).run s.advance := by
  have below : (Command.deepen.apply s).AtInteger text line := digits
  have room' : ¬ settings.limit ≤ s.advance.depth := Nat.not_le.2 room
  rw [expression, run_nested, run_nested, if_neg (Nat.not_le.2 room), if_neg room', run_between,
    run_between, applyAll_cons, applyAll_nil, run_bind, run_primary_integer below,
    literal_integer read, run_pure]
  rfl

theorem run_expression_refused {levels least : Nat} (digits : s.AtInteger text line)
    (room : s.depth < settings.limit) (refused : readInt64? text = none) :
    (expression settings (levels + 1) least).run s =
      (.error ⟨.integerOutOfRange text, line⟩, s.advance) := by
  have below : (Command.deepen.apply s).AtInteger text line := digits
  rw [expression, run_nested, if_neg (Nat.not_le.2 room), run_between, applyAll_cons, applyAll_nil,
    run_bind, run_primary_integer below, literal_refused refused, run_fail]
  rfl

end Parser

/--
Integers have 64 bits. Digits that neither a digit or point nor a unit follows are a token if their
value is one of 64 bits without a sign, and no script with other such digits is read. Where an
operand starts, such a token is a literal if its value is at most `2 ^ 63 - 1`, and with a minus
sign before it if the value is at most `2 ^ 63`; any other is refused on its line. After an operand
the minus sign is an operator, and the digits are an operand that starts without it.
-/
theorem integer_range (digits : List Char) (some : digits ≠ [])
    (all : ∀ c ∈ digits, isDigit c = true) :
    (∀ before rest earlier, Lexer.Opening 1 before (digits ++ rest) earlier →
      (∀ c ∈ rest.head?, Lexer.isNumberPart c = false) → (∀ unit, ¬ Lexer.UnitAt unit rest) →
      ((∃ later, (Lexer.scan (String.ofList (before ++ (digits ++ rest)))).tokens = earlier ++
          ⟨.integer, String.ofList digits, 1 + Lexer.newlines before⟩ :: later) ↔
        valueOf digits < 2 ^ 64) ∧
      (¬ valueOf digits < 2 ^ 64 →
        ∃ d, Lexer.tokenize (String.ofList (before ++ (digits ++ rest))) = .error d ∧
          d.Exceeds (String.ofList digits) (1 + Lexer.newlines before))) ∧
    (∀ settings inner s line, s.AtInteger (String.ofList digits) line →
      ((Parser.primary settings inner).run s).2 = s.advance ∧
      Parser.ReadsInteger ((Parser.primary settings inner).run s).1 (valueOf digits)
        (valueOf digits ≤ 2 ^ 63 - 1) (String.ofList digits) line) ∧
    (∀ settings inner s line, s.AtMinus (String.ofList digits) line →
      ((Parser.primary settings inner).run s).2 = s.advance.advance ∧
      Parser.ReadsInteger ((Parser.primary settings inner).run s).1 (-valueOf digits)
        (valueOf digits ≤ 2 ^ 63) ("-" ++ String.ofList digits) line) ∧
    (∀ settings levels least rounds left s line, s.AtMinus (String.ofList digits) line →
      least ≤ 5 → s.depth < settings.limit →
      (valueOf digits ≤ 2 ^ 63 - 1 → ∃ n : Int64, n.toInt = valueOf digits ∧
        (Parser.operators (Parser.expression settings (levels + 1)) least (rounds + 1) left).run s =
          (Parser.nested settings (Parser.operators (Parser.expression settings levels) 6
              settings.bound (.integer n)) >>= fun right =>
            Parser.operators (Parser.expression settings (levels + 1)) least rounds
              (.binaryOperation "-" left right)).run s.advance.advance) ∧
      (¬ valueOf digits ≤ 2 ^ 63 - 1 → ∃ d,
        (Parser.operators (Parser.expression settings (levels + 1)) least (rounds + 1) left).run s =
          (.error d, s.advance.advance) ∧ d.Exceeds (String.ofList digits) line)) := by
  obtain ⟨c, more, first⟩ := List.exists_cons_of_ne_nil some
  have written : (String.ofList digits).toList = c :: more := by rw [String.toList_ofList, first]
  obtain ⟨plain, minus⟩ := Decimal.readInt?_digits written (by rwa [String.toList_ofList])
  rw [String.toList_ofList] at plain minus
  refine ⟨fun before rest earlier opening => Lexer.scan_integer some all opening,
    fun settings inner s line digits => ?_, fun settings inner s line sign => ?_,
    fun settings levels least rounds left s line sign binds room => ?_⟩
  · rw [Parser.run_primary_integer digits]
    exact Parser.readsInteger_literal plain (by omega) line _
  · rw [Parser.run_primary_minus sign]
    exact Parser.readsInteger_literal minus (by omega) line _
  · obtain ⟨within, without⟩ := Parser.readInt64?_of_readInt? plain
    rw [Parser.run_operators_minus sign binds]
    refine ⟨fun small => ?_, fun large => ?_⟩
    · obtain ⟨n, same, read⟩ := within (by omega)
      refine ⟨n, same, ?_⟩
      rw [Parser.run_bind, Parser.run_bind, Parser.run_expression_integer sign.advance room read]
    · have refused := without (by omega)
      refine ⟨_, ?_, exceeds_integerOutOfRange _ _⟩
      rw [Parser.run_bind, Parser.run_expression_refused sign.advance room refused]

/-- The digits of `2 ^ 63` are a token, and a literal only if a minus sign before them is not an
operator. -/
theorem integer_range_least :
    (∃ later, (Lexer.scan "9223372036854775808").tokens =
        ⟨.integer, some "9223372036854775808", 1⟩ :: later) ∧
      (∃ n : Int64, n.toInt = -2 ^ 63 ∧
        ((Parser.primary ⟨.none, 8, 8⟩ (Parser.unexpected .expression)).run (Parser.start .initial
          [⟨.operator, some "-", 1⟩, ⟨.integer, some "9223372036854775808", 1⟩])).1 =
            .ok (.integer n)) ∧
      ∃ d : Diagnostic, d.Exceeds "9223372036854775808" 1 ∧
        ((Parser.operators (Parser.expression ⟨.none, 8, 8⟩ 8) 1 8 (.boolean true)).run
          (Parser.start .initial [⟨.operator, some "-", 1⟩,
            ⟨.integer, some "9223372036854775808", 1⟩])).1 = .error d := by
  have digits : valueOf "9223372036854775808".toList = 2 ^ 63 := by decide +kernel
  have sign : (Parser.start .initial [⟨.operator, some "-", 1⟩,
      ⟨.integer, some "9223372036854775808", 1⟩]).AtMinus "9223372036854775808" 1 :=
    ⟨⟨1, rfl⟩, rfl⟩
  obtain ⟨token, -, minus, binary⟩ :=
    integer_range "9223372036854775808".toList (by decide) (List.all_eq_true.1 (by decide +kernel))
  rw [String.ofList_toList] at minus binary
  refine ⟨?_, ?_, ?_⟩
  · have small : valueOf "9223372036854775808".toList < 2 ^ 64 := by omega
    obtain ⟨later, read⟩ :=
      (token [] [] [] .nil nofun (Lexer.not_unitAt_of_eq_none rfl)).1.2 small
    exact ⟨later, read⟩
  · obtain ⟨n, same, read⟩ := (minus _ _ _ _ sign).2.read.2 (Nat.le_of_eq digits)
    exact ⟨n, by omega, read⟩
  · have large : ¬ valueOf "9223372036854775808".toList ≤ 2 ^ 63 - 1 := by omega
    obtain ⟨d, refused, exceeds⟩ :=
      (binary ⟨.none, 8, 8⟩ 7 1 7 (.boolean true) _ _ sign (by decide) (by decide)).2 large
    exact ⟨d, exceeds, congrArg Prod.fst refused⟩

end DeskScript
