import DeskScript.Decimal.Reader
import DeskScript.Decimal.Shortest
import DeskScript.Parser.Expression
import DeskScript.Proofs.Decimal.Double
import Mathlib.Data.List.TakeWhile

/-!
Numerals read back. An integer is written with its digits, a finite double with all of its digits;
a sign is written apart. Main statements: `readInt64?_written` and `readFloat?_written`.
-/

namespace DeskScript.Decimal

open Text (isDigit)

theorem valueOf_eq (digits : List Char) : valueOf digits = Nat.ofDigitChars 10 digits 0 := by
  rw [Nat.ofDigitChars_eq_foldl]
  rfl

theorem toDigits_isDigit (n : Nat) : (Nat.toDigits 10 n).all isDigit = true := by
  rw [List.all_eq_true]
  intro c mem
  exact Nat.isDigit_of_mem_toDigits (by decide) (by decide) mem

theorem valueOf_toDigits (n : Nat) : valueOf (Nat.toDigits 10 n) = n := by
  rw [valueOf_eq, Nat.ofDigitChars_ten_toDigits]

theorem valueOf_padded (zeros n : Nat) :
    valueOf (List.replicate zeros '0' ++ Nat.toDigits 10 n) = n := by
  rw [valueOf_eq, Nat.ofDigitChars_append, Nat.ofDigitChars_replicate_zero, Nat.mul_zero,
    Nat.ofDigitChars_ten_toDigits]

theorem readNat?_toDigits (n : Nat) : readNat? (Nat.toDigits 10 n) = some n := by
  have some : (Nat.toDigits 10 n).isEmpty = false := by simp
  rw [readNat?, some, toDigits_isDigit, valueOf_toDigits]
  rfl

theorem splitSign_of_digit {c : Char} {rest : List Char} (digit : isDigit c = true) :
    splitSign (c :: rest) = (false, c :: rest) := by
  unfold splitSign
  split
  next h => simp_all [isDigit]
  next h => simp_all [isDigit]
  next => rfl

def signed (negative : Bool) (text : List Char) : String :=
  if negative then "-" ++ String.ofList text else String.ofList text

theorem splitSign_signed {text : List Char} {c : Char} {rest : List Char}
    (first : text = c :: rest) (digit : isDigit c = true) (negative : Bool) :
    splitSign (signed negative text).toList = (negative, text) := by
  cases negative with
  | false =>
    rw [signed, if_neg (by decide), String.toList_ofList, first]
    exact splitSign_of_digit digit
  | true =>
    rw [signed, if_pos rfl, String.toList_append, String.toList_ofList, String.toList_ofList]
    rfl

theorem toDigits_cons (n : Nat) : ∃ c rest, Nat.toDigits 10 n = c :: rest ∧ isDigit c = true := by
  obtain ⟨c, rest, first⟩ := List.exists_cons_of_ne_nil (Nat.toDigits_ne_nil (n := n) (b := 10))
  have digits := toDigits_isDigit n
  rw [first, List.all_cons, Bool.and_eq_true] at digits
  exact ⟨c, rest, first, digits.1⟩

def integerDigits (value : Int64) : List Char :=
  Nat.toDigits 10 value.toInt.natAbs

theorem readInt64?_written (value : Int64) :
    Parser.readInt64? (signed (value.toInt < 0) (integerDigits value)) = some value := by
  obtain ⟨c, rest, first, digit⟩ := toDigits_cons value.toInt.natAbs
  have low := value.le_toInt
  have high := value.toInt_lt
  have whole : (if decide (value.toInt < 0) = true then -(value.toInt.natAbs : Int)
      else value.toInt.natAbs) = value.toInt := by
    simp only [decide_eq_true_eq]
    omega
  rw [Parser.readInt64?, readInt?, integerDigits, splitSign_signed first digit]
  dsimp only
  rw [readNat?_toDigits]
  change Option.bind (some (if decide (value.toInt < 0) = true then _ else _)) toInt64? = _
  rw [whole, Option.bind_some, toInt64?, if_pos (by omega), Int64.ofInt_toInt]

def written (x : Float) : Decimal :=
  let digits := exact (fraction x).1 (fraction x).2
  ⟨10 * digits.digits, digits.exponent - 1⟩

theorem plain_eq (digits places : Nat) :
    ∃ whole rest, plain ⟨digits, -(places + 1 : Nat)⟩ = whole ++ '.' :: rest ∧ whole ≠ [] ∧
      (whole ++ rest).all isDigit = true ∧ valueOf (whole ++ rest) = digits ∧
      rest.length = places + 1 := by
  unfold plain
  dsimp only
  rw [if_neg (by omega), show (-(-(places + 1 : Nat) : Int)).toNat = places + 1 by omega]
  set padded := List.replicate (places + 1 + 1 - (Nat.toDigits 10 digits).length) '0' ++
    Nat.toDigits 10 digits with hpadded
  have long : places + 1 < padded.length := by
    rw [hpadded, List.length_append, List.length_replicate]
    omega
  refine ⟨_, _, rfl, ?_, ?_, ?_, ?_⟩
  · rw [← List.length_pos_iff, List.length_take]
    omega
  · rw [List.take_append_drop, hpadded, List.all_append, toDigits_isDigit, List.all_replicate]
    split <;> rfl
  · rw [List.take_append_drop, hpadded, valueOf_padded]
  · rw [List.length_drop]
    omega

theorem readDecimal?_plain (digits places : Nat) :
    readDecimal? (plain ⟨digits, -(places + 1 : Nat)⟩) =
      some ⟨digits, -(places + 1 : Nat)⟩ := by
  obtain ⟨whole, rest, text, some, all, value, length⟩ := plain_eq digits places
  rw [List.all_append, Bool.and_eq_true, List.all_eq_true, List.all_eq_true] at all
  have point : isDigit '.' = false := by decide
  have nonempty : whole.isEmpty = false := by simpa using some
  rw [text, readDecimal?]
  dsimp only
  rw [List.takeWhile_append_of_pos all.1, List.dropWhile_append_of_pos all.1]
  simp only [List.takeWhile_cons, List.dropWhile_cons, point, Bool.false_eq_true, if_false,
    List.append_nil]
  rw [List.takeWhile_eq_self_iff.2 all.2, List.dropWhile_eq_nil_iff.2 all.2, nonempty, value,
    length]
  simp [readExponent?]

theorem digit_toUpper {c : Char} (digit : isDigit c = true) : c.toUpper = c := by
  unfold isDigit at digit
  rw [Bool.and_eq_true, decide_eq_true_eq, decide_eq_true_eq] at digit
  unfold Char.toUpper
  split
  next lower =>
    have above := lower.1
    have below := digit.2
    exact absurd (UInt32.le_trans above below) (by decide)
  next => rfl

theorem upper_ne_of_digit {c w : Char} (digit : isDigit c = true) (letter : isDigit w = false)
    (rest others : List Char) :
    (Text.upper (String.ofList (c :: rest)) == String.ofList (w :: others)) = false := by
  rw [beq_eq_false_iff_ne]
  intro same
  have lists := congrArg String.toList same
  rw [Text.upper, String.toList_ofList, String.toList_ofList, String.toList_ofList, List.map_cons,
    digit_toUpper digit] at lists
  rw [(List.cons.inj lists).1, letter] at digit
  cases digit

theorem readMagnitude?_of_digit {text rest : List Char} {c : Char} (first : text = c :: rest)
    (digit : isDigit c = true) : readMagnitude? text = (readDecimal? text).map toFloat := by
  subst first
  have inf := upper_ne_of_digit digit (w := 'I') (by decide) rest ['N', 'F']
  have infinity := upper_ne_of_digit digit (w := 'I') (by decide) rest
    ['N', 'F', 'I', 'N', 'I', 'T', 'Y']
  have nan := upper_ne_of_digit digit (w := 'N') (by decide) rest ['A', 'N']
  unfold readMagnitude?
  dsimp only
  rw [inf, infinity, nan]
  rfl

theorem digitCount_bounds {n : Nat} (pos : 0 < n) :
    10 ^ (digitCount n - 1) ≤ n ∧ n < 10 ^ digitCount n := by
  have some : 0 < digitCount n := Nat.length_toDigits_pos
  constructor
  · rcases Nat.eq_zero_or_pos (digitCount n - 1) with one | more
    · rw [one]
      exact pos
    · refine Nat.le_of_not_lt fun lt => ?_
      have fewer := (Nat.length_toDigits_le_iff (by decide) more).2 lt
      unfold digitCount at fewer some
      omega
  · exact (Nat.length_toDigits_le_iff (by decide) some).1 (Nat.le_refl _)

theorem size_bounds {digits : Nat} (pos : 0 < digits) (places : Nat) :
    (10 : ℚ) ^ ((digitCount digits : Int) - places - 1) ≤ digits / (10 ^ places : Nat) ∧
      (digits : ℚ) / (10 ^ places : Nat) < 10 ^ ((digitCount digits : Int) - places) := by
  obtain ⟨low, high⟩ := digitCount_bounds pos
  have some : 0 < digitCount digits := Nat.length_toDigits_pos
  have ten : (10 : ℚ) ≠ 0 := by norm_num
  have placesPos : (0 : ℚ) < (10 ^ places : Nat) := by exact_mod_cast Nat.pow_pos (by decide)
  have cast (k : Nat) : ((10 ^ k : Nat) : ℚ) = (10 : ℚ) ^ (k : Int) := by
    rw [zpow_natCast]
    exact Nat.cast_pow 10 k
  constructor
  · rw [le_div_iff₀ placesPos, cast, ← zpow_add₀ ten]
    calc (10 : ℚ) ^ ((digitCount digits : Int) - places - 1 + places)
        = ((10 ^ (digitCount digits - 1) : Nat) : ℚ) := by rw [cast]; congr 1; omega
      _ ≤ digits := by exact_mod_cast low
  · rw [div_lt_iff₀ placesPos, cast, ← zpow_add₀ ten, Int.sub_add_cancel, ← cast]
    exact_mod_cast high

theorem two_pow_lt_ten_pow : 2 ^ 1074 < 10 ^ 330 ∧ 2 * hiddenBit * 2 ^ 971 < 10 ^ 320 := by
  decide +kernel

theorem value_bounds {bits : Nat} (finite : bits < infinityBits) (pos : 0 < (unpack bits).1) :
    (10 : ℚ) ^ (-330 : Int) ≤ (unpack bits).1 * (2 : ℚ) ^ (unpack bits).2 ∧
      (unpack bits).1 * (2 : ℚ) ^ (unpack bits).2 < 10 ^ (320 : Int) := by
  obtain ⟨small, least, -⟩ := unpack_canonical bits
  have largest : (unpack bits).2 ≤ 971 := by
    have field : bits / hiddenBit ≤ 2046 := by
      unfold infinityBits at finite
      unfold hiddenBit
      omega
    unfold unpack
    dsimp only
    split <;> dsimp only <;> omega
  have one : (1 : ℚ) ≤ (unpack bits).1 := by exact_mod_cast pos
  have two : (1 : ℚ) ≤ 2 := by norm_num
  -- the largest and the smallest power of two are compared with powers of ten as natural numbers
  have tiny : (10 : ℚ) ^ (-330 : Int) ≤ 2 ^ (-1074 : Int) := by
    rw [zpow_neg, zpow_neg, zpow_ofNat, zpow_ofNat]
    refine inv_anti₀ (pow_pos (by norm_num) _) ?_
    exact_mod_cast Nat.le_of_lt two_pow_lt_ten_pow.1
  have huge : ((2 * hiddenBit : Nat) : ℚ) * 2 ^ (971 : Int) < 10 ^ (320 : Int) := by
    rw [zpow_ofNat, zpow_ofNat]
    exact_mod_cast two_pow_lt_ten_pow.2
  constructor
  · calc (10 : ℚ) ^ (-330 : Int) ≤ 2 ^ (-1074 : Int) := tiny
      _ = 1 * 2 ^ (-1074 : Int) := (one_mul _).symm
      _ ≤ (unpack bits).1 * 2 ^ (unpack bits).2 := by gcongr
  · calc (unpack bits).1 * (2 : ℚ) ^ (unpack bits).2
        ≤ ((2 * hiddenBit : Nat) : ℚ) * 2 ^ (971 : Int) := by gcongr
      _ < 10 ^ (320 : Int) := huge

theorem toFloat_eq {digits places bits : Nat} (finite : bits < infinityBits)
    (value : (digits : ℚ) / (10 ^ (places + 1) : Nat) =
      (unpack bits).1 * (2 : ℚ) ^ (unpack bits).2) :
    toFloat ⟨digits, -(places + 1 : Nat)⟩ = Float.ofBits (UInt64.ofNat bits) := by
  have placesPos : 0 < 10 ^ (places + 1) := Nat.pow_pos (by decide)
  have read := nearestBits_unpack finite placesPos value
  unfold toFloat
  dsimp only
  -- reading gives up on sizes that no double has, and this is the size of one
  rcases Nat.eq_zero_or_pos digits with rfl | pos
  · rw [nearestBits, if_pos rfl] at read
    rw [if_pos (by simp), nearest, nearestBits, if_pos rfl, read]
  · obtain ⟨low, high⟩ := size_bounds pos (places + 1)
    have some : 0 < (unpack bits).1 := by
      refine Nat.pos_of_ne_zero fun zero => ?_
      rw [zero, Nat.cast_zero, zero_mul] at value
      have digitsPos : (0 : ℚ) < digits := by exact_mod_cast pos
      have powerPos : (0 : ℚ) < (10 ^ (places + 1) : Nat) := by exact_mod_cast placesPos
      exact absurd value (div_pos digitsPos powerPos).ne'
    obtain ⟨notTiny, notHuge⟩ := value_bounds finite some
    rw [← value] at notTiny notHuge
    have ten : (1 : ℚ) < 10 := by norm_num
    have least := (zpow_lt_zpow_iff_right₀ ten).1 (notTiny.trans_lt high)
    have largest := (zpow_lt_zpow_iff_right₀ ten).1 (low.trans_lt notHuge)
    rw [if_neg (by simp; omega), if_neg (by omega), if_neg (by omega), nearest]
    rw [show (-(-(places + 1 : Nat) : Int)).toNat = places + 1 by omega]
    exact congrArg (fun n => Float.ofBits (UInt64.ofNat n)) read

theorem fraction_eq (x : Float) :
    ∃ k, (fraction x).2 = 2 ^ k ∧
      ((fraction x).1 : ℚ) / (2 ^ k : Nat) =
        (unpack (magnitudeBits x)).1 * (2 : ℚ) ^ (unpack (magnitudeBits x)).2 := by
  unfold fraction
  dsimp only
  split
  next nonneg =>
    refine ⟨0, rfl, ?_⟩
    rw [Nat.cast_mul, twoTo_toNat nonneg]
    simp
  next neg =>
    refine ⟨(-(unpack (magnitudeBits x)).2).toNat, rfl, ?_⟩
    have power := twoTo_toNat (e := -(unpack (magnitudeBits x)).2) (by omega)
    change ((2 ^ (-(unpack (magnitudeBits x)).2).toNat : Nat) : ℚ) = _ at power
    rw [power, zpow_neg, div_inv_eq_mul]

theorem readMagnitude?_written {x : Float} (finite : x.isFinite = true) :
    ∃ c rest, plain (written x) = c :: rest ∧ isDigit c = true ∧
      readMagnitude? (plain (written x)) =
        some (Float.ofBits (UInt64.ofNat (magnitudeBits x))) := by
  obtain ⟨k, power, value⟩ := fraction_eq x
  have decimal : written x = ⟨10 * ((fraction x).1 * 5 ^ k), -(k + 1 : Nat)⟩ := by
    rw [written, exact, power, Nat.log2_two_pow]
    simp only [mk.injEq]
    exact ⟨rfl, by omega⟩
  have same : ((10 * ((fraction x).1 * 5 ^ k) : Nat) : ℚ) / (10 ^ (k + 1) : Nat) =
      (unpack (magnitudeBits x)).1 * (2 : ℚ) ^ (unpack (magnitudeBits x)).2 := by
    rw [← value]
    push_cast
    rw [pow_succ, show (10 : ℚ) = 2 * 5 by norm_num, mul_pow]
    field_simp
  rw [decimal]
  obtain ⟨whole, rest, text, some, digits, -, -⟩ := plain_eq (10 * ((fraction x).1 * 5 ^ k)) k
  obtain ⟨c, others, rfl⟩ := List.exists_cons_of_ne_nil some
  rw [List.cons_append, List.all_cons, Bool.and_eq_true] at digits
  refine ⟨c, others ++ '.' :: rest, text, digits.1, ?_⟩
  rw [readMagnitude?_of_digit text digits.1, readDecimal?_plain, Option.map_some,
    toFloat_eq (magnitudeBits_lt finite) same]

theorem readFloat?_written {x : Float} (finite : x.isFinite = true) :
    readFloat? (signed (isNegative x) (plain (written x))) = some x := by
  obtain ⟨c, rest, text, digit, read⟩ := readMagnitude?_written finite
  rw [readFloat?, splitSign_signed text digit]
  dsimp only
  rw [read, Option.map_some, signed_magnitude finite]

end DeskScript.Decimal
