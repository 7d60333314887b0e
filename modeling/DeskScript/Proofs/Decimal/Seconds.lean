import DeskScript.Proofs.Decimal.Text
import DeskScript.Token.Lexer

/-!
Numerals in the fewest digits read back. A decimal keeps its double when its point is shifted, so
neither dropping zeros at the end nor writing all places out makes a difference. The text for a
length in seconds therefore reads as that length, and it stays finite under a minus sign. Main
statement: `readFloat?_secondsText`.
-/

namespace DeskScript.Decimal

open Text (isDigit)

variable {n d k : Nat}

theorem roundDiv_scale (n d : Nat) (pos : 0 < k) : roundDiv (n * k) (d * k) = roundDiv n d := by
  have twice : 2 * (n % d * k) = 2 * (n % d) * k := (Nat.mul_assoc _ _ _).symm
  simp only [roundDiv, Nat.mul_mod_mul_right, Nat.mul_div_mul_right _ _ pos, twice,
    Nat.mul_lt_mul_right pos]

theorem floorLog2_scale (npos : 0 < n) (dpos : 0 < d) (pos : 0 < k) :
    floorLog2 (n * k) (d * k) = floorLog2 n d := by
  have kne : (k : ℚ) ≠ 0 := by exact_mod_cast Nat.ne_of_gt pos
  have same : ((n * k : Nat) : ℚ) / (d * k : Nat) = n / d := by
    push_cast
    exact mul_div_mul_right _ _ kne
  obtain ⟨low, high⟩ := floorLog2_spec npos dpos
  apply floorLog2_eq (Nat.mul_pos npos pos) (Nat.mul_pos dpos pos)
  · rwa [same]
  · rwa [same]

theorem nearestBits_scale (n : Nat) (dpos : 0 < d) (pos : 0 < k) :
    nearestBits (n * k) (d * k) = nearestBits n d := by
  rcases Nat.eq_zero_or_pos n with rfl | npos
  · simp [nearestBits]
  have some : n * k ≠ 0 := Nat.ne_of_gt (Nat.mul_pos npos pos)
  have below (t : Nat) : roundDiv (n * k) (d * k * t) = roundDiv n (d * t) := by
    rw [Nat.mul_right_comm, roundDiv_scale _ _ pos]
  have above (t : Nat) : roundDiv (n * k * t) (d * k) = roundDiv (n * t) d := by
    rw [Nat.mul_right_comm, roundDiv_scale _ _ pos]
  simp only [nearestBits, if_neg some, if_neg (Nat.ne_of_gt npos), floorLog2_scale npos dpos pos,
    below, above]

theorem digitCount_mul_ten (pos : 0 < n) : digitCount (10 * n) = digitCount n + 1 := by
  obtain ⟨low, high⟩ := digitCount_bounds pos
  obtain ⟨low', high'⟩ := digitCount_bounds (n := 10 * n) (by omega)
  have some : 0 < digitCount n := Nat.length_toDigits_pos
  have some' : 0 < digitCount (10 * n) := Nat.length_toDigits_pos
  have more : 10 ^ digitCount n ≤ 10 * n := by
    rw [show digitCount n = digitCount n - 1 + 1 by omega, Nat.pow_succ, Nat.mul_comm]
    exact Nat.mul_le_mul_left 10 low
  have fewer : 10 * n < 10 ^ (digitCount n + 1) := by
    rw [Nat.pow_succ, Nat.mul_comm]
    exact Nat.mul_lt_mul_of_pos_right high (by decide)
  have lower := (Nat.pow_lt_pow_iff_right (by decide)).1 (Nat.lt_of_le_of_lt more high')
  have upper := (Nat.pow_lt_pow_iff_right (by decide)).1 (Nat.lt_of_le_of_lt low' fewer)
  omega

theorem tenTo_succ (k : Nat) : tenTo (k + 1) = tenTo k * 10 :=
  Nat.pow_succ 10 k

theorem toFloat_zero (exponent : Int) : toFloat ⟨0, exponent⟩ = nearest 0 1 := by
  simp [toFloat]

theorem toFloat_shift (digits : Nat) (exponent : Int) :
    toFloat ⟨10 * digits, exponent - 1⟩ = toFloat ⟨digits, exponent⟩ := by
  rcases Nat.eq_zero_or_pos digits with rfl | pos
  · rw [Nat.mul_zero, toFloat_zero, toFloat_zero]
  have size : (digitCount (10 * digits) : Int) + (exponent - 1) = digitCount digits + exponent := by
    rw [digitCount_mul_ten pos]
    omega
  have ten : (10 * digits = 0) = (digits = 0) := by
    rw [eq_iff_iff]
    omega
  -- both are the quotient of the same numbers, up to a factor of ten in the two of them
  have value : (if 0 ≤ exponent - 1 then nearest (10 * digits * tenTo (exponent - 1).toNat) 1
      else nearest (10 * digits) (tenTo (-(exponent - 1)).toNat)) =
      if 0 ≤ exponent then nearest (digits * tenTo exponent.toNat) 1
      else nearest digits (tenTo (-exponent).toNat) := by
    rcases Int.lt_trichotomy exponent 0 with neg | rfl | pos
    · have power : tenTo (-(exponent - 1)).toNat = tenTo (-exponent).toNat * 10 := by
        rw [show (-(exponent - 1)).toNat = (-exponent).toNat + 1 by omega]
        exact tenTo_succ _
      have some : 0 < tenTo (-exponent).toNat := Nat.pow_pos (by decide)
      have scaled := nearestBits_scale (k := 10) digits some (by decide)
      rw [if_neg (by omega), if_neg (by omega), power, Nat.mul_comm 10, nearest, nearest, scaled]
    · have scaled := nearestBits_scale (k := 10) digits Nat.one_pos (by decide)
      rw [Nat.mul_comm digits] at scaled
      simpa [nearest, tenTo] using congrArg (Float.ofBits ∘ UInt64.ofNat) scaled
    · have power : tenTo exponent.toNat = 10 * tenTo (exponent - 1).toNat := by
        rw [show exponent.toNat = (exponent - 1).toNat + 1 by omega]
        rw [tenTo_succ, Nat.mul_comm]
      rw [if_pos (by omega), if_pos (by omega), power, Nat.mul_left_comm, Nat.mul_assoc]
  simp only [toFloat, size, ten, value]

theorem toFloat_shifts (digits : Nat) (exponent : Int) (k : Nat) :
    toFloat ⟨digits * 10 ^ k, exponent - k⟩ = toFloat ⟨digits, exponent⟩ := by
  induction k with
  | zero => simp
  | succ k ih =>
    have digit : digits * 10 ^ (k + 1) = 10 * (digits * 10 ^ k) := by
      rw [Nat.pow_succ, ← Nat.mul_assoc, Nat.mul_comm]
    have place : exponent - (k + 1 : Nat) = exponent - k - 1 := by omega
    rw [digit, place, toFloat_shift, ih]

theorem toFloat_trim (fuel : Nat) (decimal : Decimal) :
    toFloat (trim fuel decimal) = toFloat decimal := by
  induction fuel generalizing decimal with
  | zero => rfl
  | succ fuel ih =>
    obtain ⟨digits, exponent⟩ := decimal
    rw [trim]
    dsimp only
    split
    next zero => rw [zero, toFloat_zero, toFloat_zero]
    split
    next whole =>
      have ten : digits = 10 * (digits / 10) := by omega
      have shift := toFloat_shift (digits / 10) (exponent + 1)
      rw [← ten, Int.add_sub_cancel] at shift
      rw [ih, shift]
    next => rfl

theorem plain_natCast (digits k : Nat) :
    plain ⟨digits, k⟩ = Nat.toDigits 10 digits ++ List.replicate k '0' := by
  simp [plain]

theorem isDigit_of_mem_plain (digits k : Nat) : ∀ c ∈ plain ⟨digits, k⟩, isDigit c = true := by
  rw [plain_natCast]
  refine List.forall_mem_append.2 ⟨List.all_eq_true.1 (toDigits_isDigit digits), ?_⟩
  intro c mem
  rw [List.eq_of_mem_replicate mem]
  decide

theorem readMagnitude?_plain (decimal : Decimal) :
    ∃ c rest, plain decimal = c :: rest ∧ isDigit c = true ∧
      readMagnitude? (plain decimal) = some (toFloat decimal) := by
  obtain ⟨digits, exponent⟩ := decimal
  -- below one there is a point in the text, from one on there is none
  rcases lt_or_ge exponent 0 with neg | nonneg
  · obtain ⟨places, rfl⟩ : ∃ places : Nat, exponent = -(places + 1 : Nat) :=
      ⟨(-exponent).toNat - 1, by omega⟩
    obtain ⟨whole, rest, text, some, all, -, -⟩ := plain_eq digits places
    obtain ⟨c, others, rfl⟩ := List.exists_cons_of_ne_nil some
    rw [List.cons_append, List.all_cons, Bool.and_eq_true] at all
    refine ⟨c, others ++ '.' :: rest, text, all.1, ?_⟩
    rw [readMagnitude?_of_digit text all.1, readDecimal?_plain, Option.map_some]
  · obtain ⟨k, rfl⟩ : ∃ k : Nat, exponent = k := ⟨exponent.toNat, by omega⟩
    obtain ⟨c, rest, first, digit⟩ := toDigits_cons digits
    have text := plain_natCast digits k
    have all := isDigit_of_mem_plain digits k
    have value : valueOf (plain ⟨digits, k⟩) = digits * 10 ^ k := by
      rw [text, valueOf_eq, Nat.ofDigitChars_append, Nat.ofDigitChars_ten_toDigits,
        Nat.ofDigitChars_replicate_zero, Nat.mul_comm]
    have starts : plain ⟨digits, k⟩ = c :: (rest ++ List.replicate k '0') := by
      rw [text, first, List.cons_append]
    have some : (plain ⟨digits, k⟩).isEmpty = false := by rw [starts]; rfl
    have read : readDecimal? (plain ⟨digits, k⟩) = .some ⟨digits * 10 ^ k, (k : Int) - k⟩ := by
      rw [readDecimal?]
      dsimp only
      rw [List.takeWhile_eq_self_iff.2 all, List.dropWhile_eq_nil_iff.2 all]
      dsimp only
      rw [some, List.append_nil, value]
      simp [readExponent?]
    refine ⟨c, rest ++ List.replicate k '0', starts, digit, ?_⟩
    rw [readMagnitude?_of_digit starts digit, read, Option.map_some, toFloat_shifts]

theorem toFloat_bits (decimal : Decimal) :
    ∃ bits ≤ infinityBits, decimal.toFloat = Float.ofBits (UInt64.ofNat bits) := by
  have near (n d : Nat) :
      ∃ bits ≤ infinityBits, nearest n d = Float.ofBits (UInt64.ofNat bits) := by
    refine ⟨nearestBits n d, ?_, rfl⟩
    rw [nearestBits]
    split
    · exact Nat.zero_le _
    · exact Nat.min_le_left _ _
  unfold toFloat
  dsimp only
  split
  · exact near 0 1
  split
  · exact ⟨infinityBits, Nat.le_refl _, rfl⟩
  split
  · exact near _ _
  · exact near _ _

theorem magnitude_of_toFloat {decimal : Decimal} {x : Float} (read : decimal.toFloat = x)
    (finite : x.isFinite = true) : Float.ofBits (UInt64.ofNat (magnitudeBits x)) = x := by
  obtain ⟨bits, le, same⟩ := toFloat_bits decimal
  have below : bits < infinityBits := by
    refine Nat.lt_of_le_of_ne le fun last => ?_
    have infinite : x = infinity := by rw [← read, same, last, infinity]
    rw [infinite, infinity_not_finite] at finite
    cases finite
  obtain ⟨e, m, last, parts⟩ := ofBits_eq_ofPacked below
  have plus : isNegative x = false := by
    rw [← read, same, parts, isNegative_ofPacked _ last]
    rfl
  have whole := signed_magnitude finite
  rwa [plus, if_neg (by decide)] at whole

theorem readsAs_of_onGrid? {tie : Tie} {x : Float} {exponent : Int} {decimal : Decimal}
    (h : onGrid? tie x n d exponent = some decimal) : readsAs x decimal = true :=
  List.find?_some h

theorem readsAs_of_fewestFrom {tie : Tie} {x : Float} {lead : Int} {count fuel : Nat}
    {decimal : Decimal} (h : fewestFrom tie x n d lead count fuel = some decimal) :
    readsAs x decimal = true := by
  induction fuel generalizing count with
  | zero => cases h
  | succ fuel ih =>
    unfold fewestFrom at h
    split at h
    next found =>
      obtain rfl := Option.some.inj h
      exact readsAs_of_onGrid? found
    next => exact ih h

theorem toFloat_exact {x : Float} (finite : x.isFinite = true) :
    toFloat (exact (fraction x).1 (fraction x).2) =
      Float.ofBits (UInt64.ofNat (magnitudeBits x)) := by
  obtain ⟨_, _, _, _, whole⟩ := readMagnitude?_written finite
  obtain ⟨_, _, _, _, read⟩ := readMagnitude?_plain (written x)
  have same : toFloat (written x) = Float.ofBits (UInt64.ofNat (magnitudeBits x)) :=
    Option.some.inj (read.symm.trans whole)
  rw [← same, written, toFloat_shift]

theorem toFloat_shortest (tie : Tie) {x : Float} (finite : x.isFinite = true) :
    toFloat (shortest tie x) = Float.ofBits (UInt64.ofNat (magnitudeBits x)) := by
  have whole := toFloat_exact finite
  unfold shortest
  dsimp only
  split
  next zero =>
    rw [← whole, exact, zero, Nat.zero_mul, toFloat_zero, toFloat_zero]
  next =>
    rw [toFloat_trim]
    cases found : fewestFrom tie x (fraction x).1 (fraction x).2
        (floorLog10 (fraction x).1 (fraction x).2) 1 17 with
    | none => exact whole
    | some decimal =>
      have read : decimal.toFloat = x :=
        Float.toBits_inj.1 (beq_iff_eq.1 (readsAs_of_fewestFrom found))
      rw [Option.getD_some, magnitude_of_toFloat read finite, read]

theorem readFloat?_secondsText {x : Float} (finite : x.isFinite = true) :
    ∃ c rest, (Lexer.secondsText x).toList = c :: rest ∧ isDigit c = true ∧
      readFloat? (Lexer.secondsText x) = some (Float.ofBits (UInt64.ofNat (magnitudeBits x))) := by
  obtain ⟨c, rest, text, digit, read⟩ := readMagnitude?_plain (shortest .up x)
  have start : (Lexer.secondsText x).toList = c :: rest := by
    rw [Lexer.secondsText, String.toList_ofList, text]
  refine ⟨c, rest, start, digit, ?_⟩
  rw [readFloat?, start, splitSign_of_digit digit]
  dsimp only
  rw [← text, read, Option.map_some, if_neg (by decide), toFloat_shortest .up finite]

end DeskScript.Decimal
