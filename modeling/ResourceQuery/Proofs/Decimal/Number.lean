/-
  Resource queries — the numbers that decimals denote.

  * `Decimal.number`: the rational number `digits · 10 ^ (-scale)`.
  * `cmp_eq`, `same_iff`: decimals are ordered as their numbers, and are the same when their
    numbers are.
  * `toInt64?_eq_some`: a decimal is an integer of 64 bits when its number is.
  * `toFloat_eq`: the nearest binary number depends on nothing but the number.
-/
import Mathlib.Algebra.Order.Field.Power
import Mathlib.Tactic.Positivity
import Mathlib.Tactic.Ring
import ResourceQuery.Binary64.Reader
import ResourceQuery.Proofs.Text.Numeral

namespace ResourceQuery

namespace Decimal

/-- The number that a decimal denotes. -/
def number (d : Decimal) : ℚ := d.digits * 10 ^ (-d.scale.toInt)

@[simp] theorem number_ofInt (i : ℤ) : (ofInt i).number = i := by
  simp [number, ofInt]

/-! ## Sizes -/

theorem number_eq_zero {d : Decimal} : d.number = 0 ↔ d.digits = 0 := by
  rw [number, mul_eq_zero, or_iff_left (zpow_ne_zero _ (by norm_num)), Int.cast_eq_zero]

theorem number_neg {d : Decimal} : d.number < 0 ↔ d.digits < 0 := by
  have hpow : (0 : ℚ) < 10 ^ (-d.scale.toInt) := by positivity
  rw [number, mul_neg_iff]
  constructor
  · rintro (⟨-, h⟩ | ⟨h, -⟩)
    · exact absurd h hpow.not_gt
    · exact_mod_cast h
  · exact fun h => .inr ⟨by exact_mod_cast h, hpow⟩

theorem abs_number (d : Decimal) : |d.number| = d.digits.natAbs * 10 ^ (-d.scale.toInt) := by
  have hpow : (0 : ℚ) < 10 ^ (-d.scale.toInt) := by positivity
  rw [number, abs_mul, abs_of_pos hpow, Nat.cast_natAbs, Int.cast_abs]

theorem width_pos (d : Decimal) : 0 < d.width := List.length_pos_of_ne_nil (Numeral.digits_ne_nil _)

/-- The digits of a number other than zero fill its width. -/
theorem natAbs_digits_lt (d : Decimal) : d.digits.natAbs < 10 ^ d.width :=
  (Nat.length_toDigits_le_iff (by decide) d.width_pos).1 le_rfl

theorem le_natAbs_digits {d : Decimal} (h : d.digits ≠ 0) :
    10 ^ (d.width - 1) ≤ d.digits.natAbs := by
  by_contra hlt
  have hw := d.width_pos
  by_cases hone : d.width = 1
  · rw [hone] at hlt
    have : 0 < d.digits.natAbs := Int.natAbs_pos.2 h
    simp at hlt
    omega
  · have : d.width ≤ d.width - 1 :=
      (Nat.length_toDigits_le_iff (by decide) (by omega)).2 (Nat.lt_of_not_le hlt)
    omega

/-- The leading digit decides the size of a number up to a power of ten. -/
theorem abs_number_lt (d : Decimal) : |d.number| < 10 ^ d.leading := by
  have hdigits : (d.digits.natAbs : ℚ) < 10 ^ (d.width : ℤ) := by
    rw [zpow_natCast]
    exact_mod_cast d.natAbs_digits_lt
  have hpow : (0 : ℚ) < 10 ^ (-d.scale.toInt) := by positivity
  calc |d.number| = d.digits.natAbs * 10 ^ (-d.scale.toInt) := abs_number d
    _ < 10 ^ (d.width : ℤ) * 10 ^ (-d.scale.toInt) := mul_lt_mul_of_pos_right hdigits hpow
    _ = 10 ^ d.leading := by rw [← zpow_add₀ (by norm_num), leading, sub_eq_add_neg]

theorem le_abs_number {d : Decimal} (h : d.digits ≠ 0) : 10 ^ (d.leading - 1) ≤ |d.number| := by
  have hdigits : (10 : ℚ) ^ ((d.width : ℤ) - 1) ≤ d.digits.natAbs := by
    have hw : ((d.width - 1 : ℕ) : ℤ) = (d.width : ℤ) - 1 := Nat.cast_pred d.width_pos
    rw [← hw, zpow_natCast]
    exact_mod_cast le_natAbs_digits h
  have hpow : (0 : ℚ) < 10 ^ (-d.scale.toInt) := by positivity
  calc (10 : ℚ) ^ (d.leading - 1) = 10 ^ ((d.width : ℤ) - 1) * 10 ^ (-d.scale.toInt) := by
        rw [← zpow_add₀ (by norm_num), leading]
        congr 1
        ring
    _ ≤ d.digits.natAbs * 10 ^ (-d.scale.toInt) := mul_le_mul_of_nonneg_right hdigits hpow.le
    _ = |d.number| := (abs_number d).symm

/-! ## Order -/

/-- Two comparisons with the same outcomes. -/
theorem compare_congr {α β : Type} [LinearOrder α] [LinearOrder β] {a b : α} {c d : β}
    (hlt : a < b ↔ c < d) (hgt : b < a ↔ d < c) : compare a b = compare c d := by
  rcases lt_trichotomy a b with h | rfl | h
  · rw [compare_lt_iff_lt.2 h, compare_lt_iff_lt.2 (hlt.1 h)]
  · have hcd : c = d := le_antisymm (not_lt.1 fun h => lt_irrefl _ (hgt.2 h))
      (not_lt.1 fun h => lt_irrefl _ (hlt.2 h))
    rw [compare_eq_iff_eq.2 rfl, compare_eq_iff_eq.2 hcd]
  · rw [compare_gt_iff_gt.2 h, compare_gt_iff_gt.2 (hgt.1 h)]

theorem tenTo_eq (n : ℕ) : (Numeral.tenTo n : ℚ) = 10 ^ n := by
  rw [Numeral.tenTo]
  exact_mod_cast rfl

/-- With the leading digits at one position, the digits, aligned, are to each other as the
    numbers are. -/
theorem aligned_eq {a b : Decimal} (h : a.leading = b.leading) :
    ((a.digits.natAbs * Numeral.tenTo (b.width - a.width) : ℕ) : ℚ) =
      |a.number| * 10 ^ ((max a.width b.width : ℕ) - b.leading : ℤ) := by
  have hexponent : ((b.width - a.width : ℕ) : ℤ) =
      -a.scale.toInt + ((max a.width b.width : ℕ) - b.leading) := by
    rw [← h, leading]
    omega
  rw [Nat.cast_mul, tenTo_eq, abs_number, mul_assoc, ← zpow_add₀ (by norm_num), ← hexponent,
    zpow_natCast]

theorem cmpMagnitude_of_zero {a b : Decimal} (h : a.digits = 0 ∨ b.digits = 0) :
    a.cmpMagnitude b = compare |a.number| |b.number| := by
  have hpos {d : Decimal} : 0 < |d.number| ↔ 0 < d.digits.natAbs := by
    rw [abs_pos, ne_eq, number_eq_zero, Int.natAbs_pos]
  rw [cmpMagnitude, if_pos h]
  rcases h with h | h
  · have hnumber : |a.number| = 0 := by rw [number_eq_zero.2 h, abs_zero]
    rw [h, hnumber, Int.natAbs_zero]
    refine compare_congr hpos.symm ?_
    exact iff_of_false (Nat.not_lt_zero _) (abs_nonneg _).not_gt
  · have hnumber : |b.number| = 0 := by rw [number_eq_zero.2 h, abs_zero]
    rw [h, hnumber, Int.natAbs_zero]
    refine compare_congr ?_ hpos.symm
    exact iff_of_false (Nat.not_lt_zero _) (abs_nonneg _).not_gt

/-- The number with the leading digit further left is the larger one. -/
theorem abs_number_lt_of_leading_lt {a b : Decimal} (hb : b.digits ≠ 0)
    (h : a.leading < b.leading) : |a.number| < |b.number| :=
  calc |a.number| < 10 ^ a.leading := a.abs_number_lt
    _ ≤ 10 ^ (b.leading - 1) := zpow_le_zpow_right₀ (by norm_num) (by omega)
    _ ≤ |b.number| := le_abs_number hb

theorem compare_aligned {a b : Decimal} (h : a.leading = b.leading) :
    compare (a.digits.natAbs * Numeral.tenTo (b.width - a.width))
        (b.digits.natAbs * Numeral.tenTo (a.width - b.width)) =
      compare |a.number| |b.number| := by
  have haligned := aligned_eq h
  have haligned' := aligned_eq h.symm
  rw [max_comm, h] at haligned'
  have hpow : (0 : ℚ) < 10 ^ ((max a.width b.width : ℕ) - b.leading : ℤ) := by positivity
  refine compare_congr ?_ ?_
  · rw [← Nat.cast_lt (α := ℚ), haligned, haligned', mul_lt_mul_iff_left₀ hpow]
  · rw [← Nat.cast_lt (α := ℚ), haligned, haligned', mul_lt_mul_iff_left₀ hpow]

theorem cmpMagnitude_eq (a b : Decimal) :
    a.cmpMagnitude b = compare |a.number| |b.number| := by
  by_cases hzero : a.digits = 0 ∨ b.digits = 0
  · exact cmpMagnitude_of_zero hzero
  obtain ⟨ha, hb⟩ := not_or.1 hzero
  rw [cmpMagnitude, if_neg hzero]
  rcases lt_trichotomy a.leading b.leading with h | h | h
  · rw [compare_lt_iff_lt.2 h, compare_lt_iff_lt.2 (abs_number_lt_of_leading_lt hb h)]
    rfl
  · rw [compare_eq_iff_eq.2 h, Ordering.eq_then, compare_aligned h]
  · rw [compare_gt_iff_gt.2 h, compare_gt_iff_gt.2 (abs_number_lt_of_leading_lt ha h)]
    rfl

/-- Decimals are ordered as their numbers. -/
theorem cmp_eq (a b : Decimal) : a.cmp b = compare a.number b.number := by
  rw [cmp]
  by_cases ha : a.digits < 0
  · have hna := number_neg.2 ha
    rw [if_pos ha]
    by_cases hb : b.digits < 0
    · have hnb := number_neg.2 hb
      rw [if_pos hb, cmpMagnitude_eq, abs_of_neg hna, abs_of_neg hnb]
      exact compare_congr neg_lt_neg_iff neg_lt_neg_iff
    · have hnb : 0 ≤ b.number := not_lt.1 (mt number_neg.1 hb)
      rw [if_neg hb, compare_lt_iff_lt.2 (hna.trans_le hnb)]
  · have hna : 0 ≤ a.number := not_lt.1 (mt number_neg.1 ha)
    rw [if_neg ha]
    by_cases hb : b.digits < 0
    · have hnb := number_neg.2 hb
      rw [if_pos hb, compare_gt_iff_gt.2 (hnb.trans_le hna)]
    · have hnb : 0 ≤ b.number := not_lt.1 (mt number_neg.1 hb)
      rw [if_neg hb, cmpMagnitude_eq, abs_of_nonneg hna, abs_of_nonneg hnb]

theorem same_iff {a b : Decimal} : a.same b ↔ a.number = b.number := by
  rw [same, beq_iff_eq, cmp_eq, compare_eq_iff_eq]

/-! ## Integers -/

theorem number_eq_int_of_nonpos {d : Decimal} (h : d.scale.toInt ≤ 0) {i : ℤ} :
    d.number = i ↔ d.digits * 10 ^ d.scale.toInt.natAbs = i := by
  have hscale : -d.scale.toInt = (d.scale.toInt.natAbs : ℤ) := by omega
  rw [number, hscale, zpow_natCast]
  exact_mod_cast Iff.rfl

theorem number_eq_int_of_nonneg {d : Decimal} (h : 0 ≤ d.scale.toInt) {i : ℤ} :
    d.number = i ↔ d.digits = i * 10 ^ d.scale.toInt.natAbs := by
  have hscale : d.scale.toInt = (d.scale.toInt.natAbs : ℤ) := by omega
  have hpow : (10 : ℚ) ^ d.scale.toInt.natAbs ≠ 0 := pow_ne_zero _ (by norm_num)
  rw [number, zpow_neg, hscale, zpow_natCast, Int.natAbs_natCast, ← div_eq_mul_inv,
    div_eq_iff hpow]
  exact_mod_cast Iff.rfl

theorem tenTo_int (n : ℕ) : (Numeral.tenTo n : ℤ) = 10 ^ n := by
  rw [Numeral.tenTo]
  exact_mod_cast rfl

/-- Nineteen zeros after the digits are too many for 64 bits. -/
theorem ne_of_nineteen_zeros {i : ℤ} (hi : i ≠ 0) {k : ℕ} (hk : 19 ≤ k) (n : Int64) :
    i * 10 ^ k ≠ n.toInt := by
  intro h
  have hmin : -9223372036854775808 ≤ n.toInt := n.le_toInt
  have hmax : n.toInt < 9223372036854775808 := n.toInt_lt
  have hpow : (10 : ℤ) ^ 19 ≤ 10 ^ k := pow_le_pow_right₀ (by norm_num) hk
  rcases lt_or_gt_of_ne hi with hneg | hpos
  · have : i * 10 ^ k ≤ -1 * 10 ^ k := mul_le_mul_of_nonneg_right (by omega) (by positivity)
    omega
  · have : 1 * 10 ^ k ≤ i * 10 ^ k := mul_le_mul_of_nonneg_right (by omega) (by positivity)
    omega

/-- A multiple of a power of ten has more digits than the power has zeros. -/
theorem lt_width_of_eq_mul {d : Decimal} (h : d.digits ≠ 0) {i : ℤ} {k : ℕ}
    (hi : d.digits = i * 10 ^ k) : k < d.width := by
  by_contra hlt
  have hne : i.natAbs ≠ 0 := by
    rintro h0
    rw [Int.natAbs_eq_zero.1 h0, zero_mul] at hi
    exact h hi
  have hle : 10 ^ k ≤ d.digits.natAbs := by
    rw [hi, Int.natAbs_mul, Int.natAbs_pow]
    exact Nat.le_mul_of_pos_left _ (Nat.pos_of_ne_zero hne)
  have hwidth : 10 ^ d.width ≤ 10 ^ k := Nat.pow_le_pow_right (by norm_num) (not_lt.1 hlt)
  exact absurd (hwidth.trans hle) (not_le.2 d.natAbs_digits_lt)

/-- A decimal denotes an integer of 64 bits when its number is this integer. -/
theorem toInt64?_eq_some {d : Decimal} {n : Int64} :
    d.toInt64? = some n ↔ d.number = (n.toInt : ℚ) := by
  unfold toInt64?
  dsimp only
  by_cases hzero : d.digits = 0
  · rw [if_pos hzero, number_eq_zero.2 hzero, Option.some.injEq, ← Int64.toInt_inj]
    exact_mod_cast Iff.rfl
  rw [if_neg hzero]
  by_cases hscale : d.scale.toInt ≤ 0
  · rw [if_pos hscale, number_eq_int_of_nonpos hscale]
    by_cases hmany : -18 ≤ d.scale.toInt
    · rw [if_pos hmany, Numeral.int64?_eq_some, tenTo_int, eq_comm]
    · rw [if_neg hmany]
      exact iff_of_false (by simp) (ne_of_nineteen_zeros hzero (by omega) n)
  rw [if_neg hscale, number_eq_int_of_nonneg (by omega), tenTo_int]
  have hpow : (10 : ℤ) ^ d.scale.toInt.natAbs ≠ 0 := pow_ne_zero _ (by norm_num)
  by_cases hwhole : d.scale.toInt < d.width ∧ d.digits % 10 ^ d.scale.toInt.natAbs = 0
  · rw [if_pos hwhole, Numeral.int64?_eq_some]
    constructor
    · intro h
      rw [h, Int.ediv_mul_cancel (Int.dvd_of_emod_eq_zero hwhole.2)]
    · intro h
      rw [h, Int.mul_ediv_cancel _ hpow]
  · rw [if_neg hwhole]
    refine iff_of_false (by simp) fun h => hwhole ⟨?_, ?_⟩
    · have := lt_width_of_eq_mul hzero h
      omega
    · rw [h, Int.mul_emod_left]

theorem toInt64?_eq {a b : Decimal} (h : a.number = b.number) : a.toInt64? = b.toInt64? := by
  ext n
  rw [toInt64?_eq_some, toInt64?_eq_some, h]

/-! ## Binary numbers -/

theorem stripZeros_mul {m : ℕ} (hm : m ≠ 0) (k : ℕ) (e : ℤ) :
    stripZeros (m * 10 ^ k) e = stripZeros m (e + k) := by
  induction k generalizing e with
  | zero => simp
  | succ k ih =>
    have hne : m * 10 ^ (k + 1) ≠ 0 := mul_ne_zero hm (pow_ne_zero _ (by norm_num))
    have hdiv : m * 10 ^ (k + 1) / 10 = m * 10 ^ k := by
      rw [pow_succ, ← mul_assoc, Nat.mul_div_cancel _ (by norm_num)]
    have hmod : m * 10 ^ (k + 1) % 10 = 0 := by rw [pow_succ, ← mul_assoc, Nat.mul_mod_left]
    rw [stripZeros, dif_pos ⟨hne, hmod⟩, hdiv, ih]
    congr 1
    push_cast
    ring

/-- Of two decimals of one number the one with the larger scale has more zeros. -/
theorem digits_eq_of_number_eq {a b : Decimal} (h : a.number = b.number)
    (hscale : a.scale.toInt ≤ b.scale.toInt) :
    b.digits = a.digits * 10 ^ (b.scale.toInt - a.scale.toInt).natAbs := by
  have hpow : (10 : ℚ) ^ b.scale.toInt ≠ 0 := zpow_ne_zero _ (by norm_num)
  have hexponent : ((b.scale.toInt - a.scale.toInt).natAbs : ℤ) =
      -a.scale.toInt + b.scale.toInt := by omega
  have hb : (b.digits : ℚ) = b.number * 10 ^ b.scale.toInt := by
    rw [number, mul_assoc, ← zpow_add₀ (by norm_num), neg_add_cancel, zpow_zero, mul_one]
  have ha : (b.digits : ℚ) = a.digits * 10 ^ (b.scale.toInt - a.scale.toInt).natAbs := by
    rw [hb, ← h, number, mul_assoc, ← zpow_add₀ (by norm_num), ← hexponent, zpow_natCast]
  exact_mod_cast ha

theorem nearest_eq {a b : Decimal} (h : a.number = b.number)
    (hscale : a.scale.toInt ≤ b.scale.toInt) :
    Binary64.nearest a.digits.natAbs (-a.scale.toInt) =
      Binary64.nearest b.digits.natAbs (-b.scale.toInt) := by
  have hdigits := digits_eq_of_number_eq h hscale
  by_cases hzero : a.digits = 0
  · have hzero' : b.digits = 0 := by rw [hdigits, hzero, zero_mul]
    have hnearest (e : ℤ) : Binary64.nearest 0 e = 0.0 := by simp [Binary64.nearest, stripZeros]
    rw [hzero, hzero', Int.natAbs_zero, hnearest, hnearest]
  · have hstrip : stripZeros b.digits.natAbs (-b.scale.toInt) =
        stripZeros a.digits.natAbs (-a.scale.toInt) := by
      rw [hdigits, Int.natAbs_mul, Int.natAbs_pow]
      refine (stripZeros_mul (Int.natAbs_ne_zero.2 hzero) _ _).trans ?_
      congr 1
      omega
    rw [Binary64.nearest, Binary64.nearest, hstrip]

/-- Decimals of one number have one nearest binary number. -/
theorem toFloat_eq {a b : Decimal} (h : a.number = b.number) : a.toFloat = b.toFloat := by
  have hsign : (a.digits < 0) = (b.digits < 0) := by
    rw [← propext (number_neg (d := a)), ← propext (number_neg (d := b)), h]
  have hnearest : Binary64.nearest a.digits.natAbs (-a.scale.toInt) =
      Binary64.nearest b.digits.natAbs (-b.scale.toInt) := by
    rcases le_total a.scale.toInt b.scale.toInt with hscale | hscale
    · exact nearest_eq h hscale
    · exact (nearest_eq h.symm hscale).symm
  simp only [toFloat, Binary64.nearestSigned, hnearest, hsign]

end Decimal

end ResourceQuery
