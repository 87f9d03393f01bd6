/-
  Resource queries — ASCII letters and digits.

  * `toNat_toLower`: a capital letter moves by 32, every other character stays.
  * `isAlphanum_iff`: letters and digits as three ranges.
  * `Text.lower_lower`: lower case is lower case.
-/
import ResourceQuery.Text.Basic

namespace ResourceQuery

theorem toNat_toLower (c : Char) :
    c.toLower.toNat = if 65 ≤ c.toNat ∧ c.toNat ≤ 90 then c.toNat + 32 else c.toNat := by
  delta Char.toLower
  by_cases hc : 65 ≤ c.toNat ∧ c.toNat ≤ 90
  · rw [if_pos hc, dif_pos ⟨UInt32.le_iff_toNat_le.2 hc.1, UInt32.le_iff_toNat_le.2 hc.2⟩]
    change (c.val + 32).toNat = _
    rw [UInt32.toNat_add]
    change (c.toNat + 32) % 4294967296 = _
    omega
  · rw [if_neg hc, dif_neg fun h : c.val ≥ 'A'.val ∧ c.val ≤ 'Z'.val =>
      hc ⟨UInt32.le_iff_toNat_le.1 h.1, UInt32.le_iff_toNat_le.1 h.2⟩]

theorem toLower_toLower (c : Char) : c.toLower.toLower = c.toLower := by
  apply Char.ext
  apply UInt32.toNat_inj.1
  change c.toLower.toLower.toNat = c.toLower.toNat
  have h := toNat_toLower c
  rw [toNat_toLower c.toLower]
  split at h <;> rw [if_neg (by omega)]

theorem isAlphanum_iff (c : Char) :
    c.isAlphanum ↔
      (65 ≤ c.toNat ∧ c.toNat ≤ 90) ∨ (97 ≤ c.toNat ∧ c.toNat ≤ 122) ∨
        (48 ≤ c.toNat ∧ c.toNat ≤ 57) := by
  delta Char.isAlphanum Char.isAlpha Char.isUpper Char.isLower Char.isDigit
  simp only [Bool.or_eq_true, Bool.and_eq_true, decide_eq_true_eq, ge_iff_le,
    UInt32.le_iff_toNat_le, or_assoc]
  exact Iff.rfl

theorem isAlphanum_toLower {c : Char} (h : c.isAlphanum) : c.toLower.isAlphanum := by
  rw [isAlphanum_iff] at *
  rw [toNat_toLower]
  split <;> omega

theorem Text.lower_lower (t : Text) : lower (lower t) = lower t := by
  simp only [lower, List.map_map]
  exact List.map_congr_left fun c _ => toLower_toLower c

end ResourceQuery
