import DeskScript.Proofs.Decimal.Seconds

/-!
Lengths have no sign. A numeral without a sign reads as a double whose sign bit is not set, and
neither a product nor a quotient of two such doubles has it set, so what is written for a length in
seconds reads as that very length. Main statement: `readFloat?_toSeconds`.
-/

namespace DeskScript.Decimal

open Text (isDigit)
open Float.Model Float.Model.UnpackedFloat

inductive Unsigned : UnpackedFloat → Prop where
  | notANumber : Unsigned .notANumber
  | infinity : Unsigned (.infinity .positive)
  | zero : Unsigned (.zero .positive)
  | finite {mantissa : Nat} {exponent : Int} (pos : 0 < mantissa) :
    Unsigned (.finite .positive mantissa exponent pos)

theorem Unsigned.roundWithAccuracy (format : Format) (mantissa : Nat) (exponent : Int)
    (accuracy : Accuracy) :
    Unsigned (UnpackedFloat.roundWithAccuracy format .positive mantissa exponent accuracy) := by
  unfold UnpackedFloat.roundWithAccuracy
  dsimp only
  split
  · exact .zero
  · exact .finite _

theorem Unsigned.mul {format : Format} {u v : UnpackedFloat} (hu : Unsigned u) (hv : Unsigned v) :
    Unsigned (u.mul format v) := by
  cases hu <;> cases hv
  case finite.finite => exact .roundWithAccuracy _ _ _ _
  all_goals constructor

theorem Unsigned.div {format : Format} {u v : UnpackedFloat} (hu : Unsigned u) (hv : Unsigned v) :
    Unsigned (u.div format v) := by
  cases hu <;> cases hv
  case finite.finite => exact .roundWithAccuracy _ _ _ _
  all_goals constructor

def unpacked (x : Float) : UnpackedFloat :=
  UnpackedFloat.unpack Format.binary64 x.toBits.toBitVec

theorem unsigned_unpacked {x : Float} (plus : isNegative x = false) : Unsigned (unpacked x) := by
  have below : x.toBits.toBitVec.toNat < 2 ^ 63 := Nat.lt_of_not_le (of_decide_eq_false plus)
  unfold unpacked
  set b : BitVec Format.binary64.numBits := x.toBits.toBitVec
  -- the sign is the topmost bit, and that is not set in a number below 2 ^ 63
  have sign : Sign.ofBitVec (unpackSign b) = .positive := by
    have parts := congrArg BitVec.toNat
      (packComponents_unpackSign_unpackExponent_unpackMantissa b)
    rw [packed_toNat] at parts
    cases found : Sign.ofBitVec (unpackSign b) with
    | positive => rfl
    | negative =>
      have one : Sign.negative.toBitVec.toNat = 1 := rfl
      rw [found, one] at parts
      omega
  unfold UnpackedFloat.unpack
  dsimp only
  rw [sign]
  split
  · split
    · exact .infinity
    · exact .notANumber
  · split
    · split
      · exact .zero
      · exact .finite _
    · exact .finite _

theorem Unsigned.pack_lt {u : UnpackedFloat} (hu : Unsigned u) :
    (u.pack Format.binary64).toNat < 2 ^ 63 := by
  have positive (e : BitVec 11) (m : BitVec 52) : (packed .positive e m).toNat < 2 ^ 63 := by
    have zero : Sign.positive.toBitVec.toNat = 0 := rfl
    have fits := e.isLt
    have fits' := m.isLt
    rw [packed_toNat, zero]
    omega
  cases hu with
  | notANumber => decide +kernel
  | infinity => exact positive _ _
  | zero => exact positive _ _
  | finite pos =>
    unfold UnpackedFloat.pack
    dsimp only
    split
    · exact positive _ _
    split
    · exact positive _ _
    · exact positive _ _

theorem isNegative_of_pack {x : Float} {u : UnpackedFloat} (hu : Unsigned u)
    (bits : x.toBits = UInt64.ofBitVec (u.pack Format.binary64)) : isNegative x = false := by
  rw [isNegative, bits]
  exact decide_eq_false (Nat.not_le_of_lt hu.pack_lt)

theorem isNegative_mul {x y : Float} (hx : isNegative x = false) (hy : isNegative y = false) :
    isNegative (x * y) = false :=
  isNegative_of_pack ((unsigned_unpacked hx).mul (unsigned_unpacked hy)) rfl

theorem isNegative_div {x y : Float} (hx : isNegative x = false) (hy : isNegative y = false) :
    isNegative (x / y) = false :=
  isNegative_of_pack ((unsigned_unpacked hx).div (unsigned_unpacked hy)) rfl

theorem isNegative_toFloat (decimal : Decimal) : isNegative decimal.toFloat = false := by
  obtain ⟨bits, le, same⟩ := toFloat_bits decimal
  rw [same]
  rcases Nat.lt_or_eq_of_le le with below | rfl
  · obtain ⟨e, m, last, parts⟩ := ofBits_eq_ofPacked below
    rw [parts, isNegative_ofPacked _ last]
    rfl
  · decide +kernel

theorem isNegative_of_readFloat? {c : Char} {rest : List Char} {x : Float}
    (digit : isDigit c = true) (read : readFloat? (String.ofList (c :: rest)) = some x) :
    isNegative x = false := by
  rw [readFloat?, String.toList_ofList, splitSign_of_digit digit] at read
  dsimp only at read
  rw [readMagnitude?_of_digit rfl digit, Option.map_map] at read
  obtain ⟨decimal, -, rfl⟩ := Option.map_eq_some_iff.1 read
  exact isNegative_toFloat decimal

theorem isNegative_toSeconds (unit : Lexer.TimeUnit) {length : Float}
    (plus : isNegative length = false) : isNegative (unit.toSeconds length) = false := by
  cases unit with
  | milliseconds => exact isNegative_div plus (by decide +kernel)
  | seconds => exact plus
  | minutes => exact isNegative_mul plus (by decide +kernel)
  | hours => exact isNegative_mul plus (by decide +kernel)

theorem plain_shape (decimal : Decimal) :
    (∀ c ∈ plain decimal, isDigit c = true ∨ c = '.') ∧ (plain decimal).count '.' ≤ 1 := by
  have none {text : List Char} (all : ∀ c ∈ text, isDigit c = true) : text.count '.' = 0 :=
    List.count_eq_zero.2 fun mem => absurd (all _ mem) (by decide)
  obtain ⟨digits, exponent⟩ := decimal
  rcases lt_or_ge exponent 0 with neg | nonneg
  · obtain ⟨places, rfl⟩ : ∃ places : Nat, exponent = -(places + 1 : Nat) :=
      ⟨(-exponent).toNat - 1, by omega⟩
    obtain ⟨whole, rest, text, -, all, -, -⟩ := plain_eq digits places
    rw [List.all_append, Bool.and_eq_true, List.all_eq_true, List.all_eq_true] at all
    rw [text]
    refine ⟨fun c mem => ?_, ?_⟩
    · rcases List.mem_append.1 mem with inside | tail
      · exact .inl (all.1 c inside)
      · rcases List.mem_cons.1 tail with point | inside
        · exact .inr point
        · exact .inl (all.2 c inside)
    · rw [List.count_append, List.count_cons_self, none all.1, none all.2]
  · obtain ⟨k, rfl⟩ : ∃ k : Nat, exponent = k := ⟨exponent.toNat, by omega⟩
    have all := isDigit_of_mem_plain digits k
    refine ⟨fun c mem => .inl (all c mem), ?_⟩
    rw [none all]
    exact Nat.zero_le 1

/-- What is written for a numeral with a unit is a numeral again, and it reads as the same length
in seconds. -/
theorem readFloat?_toSeconds {c : Char} {more : List Char} {unit : Lexer.TimeUnit}
    {length : Float} (digit : isDigit c = true)
    (read : readFloat? (String.ofList (c :: more)) = some length)
    (finite : (unit.toSeconds length).isFinite = true) :
    readFloat? (Lexer.secondsText (unit.toSeconds length)) = some (unit.toSeconds length) := by
  have plus := isNegative_toSeconds unit (isNegative_of_readFloat? digit read)
  obtain ⟨-, -, -, -, again⟩ := readFloat?_secondsText finite
  have whole := signed_magnitude finite
  rw [plus, if_neg (by decide)] at whole
  rw [again, whole]

end DeskScript.Decimal
