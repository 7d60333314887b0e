import DeskScript.Decimal.Nearest
import Mathlib.Algebra.Order.Field.Power
import Mathlib.Data.Rat.Lemmas
import Mathlib.Tactic.FieldSimp
import Mathlib.Tactic.Linarith
import Mathlib.Tactic.Ring

/-!
Rounding leaves doubles alone: the double nearest to a fraction that is the value of a double is
that double. It depends on the value of the fraction only, not on how it is written.
-/

namespace DeskScript.Decimal

variable {n d m : Nat} {q : Int}

theorem twoTo_cast (k : Nat) : ((twoTo k : Nat) : ℚ) = (2 : ℚ) ^ (k : Int) := by
  rw [zpow_natCast]
  exact Nat.cast_pow 2 k

theorem twoTo_toNat {e : Int} (nonneg : 0 ≤ e) : ((twoTo e.toNat : Nat) : ℚ) = (2 : ℚ) ^ e := by
  rw [twoTo_cast, Int.toNat_of_nonneg nonneg]

theorem log2_bounds (pos : 0 < n) :
    (2 : ℚ) ^ (n.log2 : Int) ≤ n ∧ (n : ℚ) < (2 : ℚ) ^ (n.log2 + 1 : Int) := by
  constructor
  · rw [zpow_natCast]
    exact_mod_cast Nat.log2_self_le (Nat.ne_of_gt pos)
  · have lt := Nat.lt_log2_self (n := n)
    rw [show (n.log2 + 1 : Int) = ((n.log2 + 1 : Nat) : Int) by simp, zpow_natCast]
    exact_mod_cast lt

theorem tooLarge_iff (pos : 0 < d) (e : Int) :
    (if 0 ≤ e then n < d * twoTo e.toNat else n * twoTo (-e).toNat < d) ↔
      (n : ℚ) / d < (2 : ℚ) ^ e := by
  have dpos : (0 : ℚ) < d := by exact_mod_cast pos
  split
  next nonneg =>
    rw [div_lt_iff₀ dpos, ← twoTo_toNat nonneg, mul_comm]
    exact_mod_cast Iff.rfl
  next neg =>
    have inverse : (2 : ℚ) ^ e = ((twoTo (-e).toNat : Nat) : ℚ)⁻¹ := by
      rw [twoTo_toNat (by omega), zpow_neg, inv_inv]
    have powerPos : (0 : ℚ) < (twoTo (-e).toNat : Nat) := by
      rw [twoTo_toNat (by omega)]
      positivity
    rw [inverse, div_lt_iff₀ dpos, inv_mul_eq_div, lt_div_iff₀ powerPos]
    exact_mod_cast Iff.rfl

theorem floorLog2_spec (npos : 0 < n) (dpos : 0 < d) :
    (2 : ℚ) ^ floorLog2 n d ≤ n / d ∧ (n : ℚ) / d < (2 : ℚ) ^ (floorLog2 n d + 1) := by
  obtain ⟨nlow, nhigh⟩ := log2_bounds npos
  obtain ⟨dlow, dhigh⟩ := log2_bounds dpos
  have dpos' : (0 : ℚ) < d := by exact_mod_cast dpos
  have two : (2 : ℚ) ≠ 0 := by norm_num
  have low : (2 : ℚ) ^ ((n.log2 : Int) - d.log2 - 1) ≤ n / d := by
    rw [le_div_iff₀ dpos']
    calc (2 : ℚ) ^ ((n.log2 : Int) - d.log2 - 1) * d
        ≤ 2 ^ ((n.log2 : Int) - d.log2 - 1) * 2 ^ (d.log2 + 1 : Int) := by gcongr
      _ = 2 ^ (n.log2 : Int) := by rw [← zpow_add₀ two]; congr 1; omega
      _ ≤ n := nlow
  have high : (n : ℚ) / d < 2 ^ ((n.log2 : Int) - d.log2 + 1) := by
    rw [div_lt_iff₀ dpos']
    calc (n : ℚ) < 2 ^ (n.log2 + 1 : Int) := nhigh
      _ = 2 ^ ((n.log2 : Int) - d.log2 + 1) * 2 ^ (d.log2 : Int) := by
        rw [← zpow_add₀ two]; congr 1; omega
      _ ≤ 2 ^ ((n.log2 : Int) - d.log2 + 1) * d := by gcongr
  -- the difference of the two exponents is right or too large by one
  unfold floorLog2
  dsimp only
  by_cases lt : (n : ℚ) / d < 2 ^ ((n.log2 : Int) - d.log2)
  · rw [if_pos ((tooLarge_iff dpos _).2 lt)]
    exact ⟨low, by simpa using lt⟩
  · rw [if_neg (mt (tooLarge_iff dpos _).1 lt)]
    exact ⟨not_lt.1 lt, high⟩

theorem floorLog2_eq (npos : 0 < n) (dpos : 0 < d) {e : Int} (low : (2 : ℚ) ^ e ≤ n / d)
    (high : (n : ℚ) / d < (2 : ℚ) ^ (e + 1)) : floorLog2 n d = e := by
  obtain ⟨low', high'⟩ := floorLog2_spec npos dpos
  have two : (1 : ℚ) < 2 := by norm_num
  have first := (zpow_lt_zpow_iff_right₀ two).1 (low.trans_lt high')
  have second := (zpow_lt_zpow_iff_right₀ two).1 (low'.trans_lt high)
  omega

theorem roundDiv_mul (m : Nat) (pos : 0 < d) : roundDiv (m * d) d = m := by
  rw [roundDiv, Nat.mul_mod_left, if_pos (by omega), Nat.mul_div_cancel _ pos]

theorem significand_eq (dpos : 0 < d) (value : (n : ℚ) / d = m * (2 : ℚ) ^ q) :
    (if 0 ≤ q then roundDiv n (d * twoTo q.toNat) else roundDiv (n * twoTo (-q).toNat) d) = m := by
  have dpos' : (d : ℚ) ≠ 0 := by exact_mod_cast Nat.ne_of_gt dpos
  rw [div_eq_iff dpos'] at value
  split
  next nonneg =>
    have same : n = m * (d * twoTo q.toNat) := by
      rw [← twoTo_toNat nonneg] at value
      have cast : (n : ℚ) = ((m * (d * twoTo q.toNat) : Nat) : ℚ) := by
        rw [value]; push_cast; ring
      exact_mod_cast cast
    rw [same]
    exact roundDiv_mul m (Nat.mul_pos dpos (Nat.pow_pos (by decide)))
  next neg =>
    have same : n * twoTo (-q).toNat = m * d := by
      have cast : ((n * twoTo (-q).toNat : Nat) : ℚ) = ((m * d : Nat) : ℚ) := by
        rw [Nat.cast_mul, twoTo_toNat (by omega), value, zpow_neg]
        have power : (2 : ℚ) ^ q ≠ 0 := by positivity
        push_cast
        field_simp
      exact_mod_cast cast
    rw [same]
    exact roundDiv_mul m dpos

/-- The significand and the exponent of a double, written with as many digits as there are. -/
def Canonical (m : Nat) (q : Int) : Prop :=
  m < 2 * hiddenBit ∧ -1074 ≤ q ∧ (hiddenBit ≤ m ∨ q = -1074)

theorem numerator_pos (mpos : 0 < m) (value : (n : ℚ) / d = m * (2 : ℚ) ^ q) : 0 < n := by
  have positive : (0 : ℚ) < n / d := by
    rw [value]
    have : (0 : ℚ) < m := by exact_mod_cast mpos
    positivity
  refine Nat.pos_of_ne_zero fun zero => ?_
  rw [zero, Nat.cast_zero, zero_div] at positive
  exact lt_irrefl _ positive

theorem exponent_eq (dpos : 0 < d) (mpos : 0 < m) (canonical : Canonical m q)
    (value : (n : ℚ) / d = m * (2 : ℚ) ^ q) : max (floorLog2 n d - 52) (-1074) = q := by
  obtain ⟨small, least, full⟩ := canonical
  have npos := numerator_pos mpos value
  have two : (2 : ℚ) ≠ 0 := by norm_num
  have power : (0 : ℚ) < 2 ^ q := by positivity
  have hidden : (2 : ℚ) ^ (q + 52) = hiddenBit * 2 ^ q := by
    rw [zpow_add₀ two, mul_comm]
    norm_num [hiddenBit]
  -- a full significand determines the exponent; a smaller one has the least there is
  by_cases enough : hiddenBit ≤ m
  · have low : (2 : ℚ) ^ (q + 52) ≤ n / d := by
      rw [value, hidden]
      gcongr
    have high : (n : ℚ) / d < 2 ^ (q + 52 + 1) := by
      rw [value, zpow_add_one₀ two, hidden, mul_right_comm]
      gcongr
      rw [mul_comm]
      exact_mod_cast small
    rw [floorLog2_eq npos dpos low high]
    omega
  · obtain rfl := full.resolve_left enough
    have low := (floorLog2_spec npos dpos).1
    have below : (n : ℚ) / d < 2 ^ (-1074 + 52 : Int) := by
      rw [value, hidden]
      gcongr
      exact_mod_cast Nat.lt_of_not_le enough
    have lt := (zpow_lt_zpow_iff_right₀ (by norm_num : (1 : ℚ) < 2)).1 (low.trans_lt below)
    omega

theorem nearestBits_eq (dpos : 0 < d) (mpos : 0 < m) (canonical : Canonical m q)
    (value : (n : ℚ) / d = m * (2 : ℚ) ^ q) :
    nearestBits n d = min infinityBits ((q + 1074).toNat * hiddenBit + m) := by
  rw [nearestBits, if_neg (Nat.ne_of_gt (numerator_pos mpos value))]
  dsimp only
  rw [exponent_eq dpos mpos canonical value, significand_eq dpos value]

theorem unpack_canonical (bits : Nat) : Canonical (unpack bits).1 (unpack bits).2 := by
  have small : bits % hiddenBit < hiddenBit := Nat.mod_lt _ (by decide)
  unfold unpack
  dsimp only
  split
  next => exact ⟨by dsimp only; omega, Int.le_refl _, .inr rfl⟩
  next field =>
    generalize bits / hiddenBit = k at field
    refine ⟨?_, ?_, .inl (Nat.le_add_right _ _)⟩ <;> dsimp only <;> omega

theorem pack_unpack (bits : Nat) :
    ((unpack bits).2 + 1074).toNat * hiddenBit + (unpack bits).1 = bits := by
  have whole := Nat.div_add_mod bits hiddenBit
  unfold unpack
  dsimp only
  split
  next zero =>
    rw [zero, Nat.mul_zero] at whole
    simpa using whole
  next field =>
    obtain ⟨k, hk⟩ := Nat.exists_eq_add_one_of_ne_zero field
    rw [hk] at whole ⊢
    rw [show (((k + 1 : Nat) : Int) - 1075 + 1074).toNat = k by omega, ← Nat.add_assoc,
      ← Nat.succ_mul, Nat.mul_comm]
    exact whole

theorem nearestBits_unpack {bits : Nat} (finite : bits < infinityBits) (dpos : 0 < d)
    (value : (n : ℚ) / d = (unpack bits).1 * (2 : ℚ) ^ (unpack bits).2) :
    nearestBits n d = bits := by
  have packed := pack_unpack bits
  rcases Nat.eq_zero_or_pos (unpack bits).1 with zero | pos
  case inl =>
    -- only the zero double has no significand, so the fraction is zero too
    have least : (unpack bits).2 = -1074 := by
      refine (unpack_canonical bits).2.2.resolve_left fun le => ?_
      rw [zero] at le
      exact absurd le (by decide)
    rw [zero, least] at packed
    have dne : (d : ℚ) ≠ 0 := by exact_mod_cast Nat.ne_of_gt dpos
    rw [zero, Nat.cast_zero, zero_mul, div_eq_zero_iff, or_iff_left dne, Nat.cast_eq_zero] at value
    rw [nearestBits, if_pos value]
    simpa using packed
  case inr =>
    rw [nearestBits_eq dpos pos (unpack_canonical bits) value, packed]
    exact Nat.min_eq_right (Nat.le_of_lt finite)

end DeskScript.Decimal
