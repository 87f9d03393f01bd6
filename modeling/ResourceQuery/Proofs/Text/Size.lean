/-
  Resource queries — sizes of texts.

  How many bytes a text takes up: no more than one it is taken from (`byteSize_le_of_sublist`),
  as many in lower case (`byteSize_lower`), at most twice as many and two between quotes
  (`byteSize_encode_le`).  A number is written with no more of them than it has been read from
  (`byteSize_digits_le`).
-/
import Mathlib.Algebra.GroupWithZero.Nat
import ResourceQuery.Proofs.Text.Numeral
import ResourceQuery.Text.Blank
import ResourceQuery.Text.Letter
import ResourceQuery.Text.Quoted

namespace ResourceQuery

namespace Text

theorem byteSize_pos {s : Text} (h : s ≠ []) : 0 < byteSize s := by
  cases s with
  | nil => exact absurd rfl h
  | cons c s => exact Nat.add_pos_left c.utf8Size_pos _

theorem byteSize_le_of_sublist {s t : Text} (h : s.Sublist t) : byteSize s ≤ byteSize t := by
  induction h with
  | slnil => exact Nat.le_refl _
  | cons c _ ih => exact Nat.le_trans ih (Nat.le_add_left _ _)
  | cons_cons c _ ih => exact Nat.add_le_add_left ih _

theorem trim_sublist (t : Text) : (trim t).Sublist t := by
  have hend : (trimEnd (trimStart t)).Sublist (trimStart t) := by
    rw [trimEnd, ← List.reverse_sublist, List.reverse_reverse]
    exact List.dropWhile_sublist _
  exact hend.trans (List.dropWhile_sublist _)

theorem utf8Size_eq_one {c : Char} (h : c.toNat ≤ 127) : c.utf8Size = 1 :=
  Char.utf8Size_eq_one_iff.2 (UInt32.le_iff_toNat_le.2 h)

/-- Capital and small letters take up one byte. -/
theorem utf8Size_toLower (c : Char) : c.toLower.utf8Size = c.utf8Size := by
  have hn := toNat_toLower c
  split at hn
  · rw [utf8Size_eq_one (by omega), utf8Size_eq_one (by omega)]
  · rw [Char.toNat_inj.1 hn]

theorem byteSize_lower (t : Text) : byteSize (lower t) = byteSize t := by
  induction t with
  | nil => rfl
  | cons c t ih =>
    show c.toLower.utf8Size + byteSize (lower t) = _
    rw [ih, utf8Size_toLower, byteSize_cons]

/-- Joined pieces and one more separator are as long as the pieces with a separator after each. -/
theorem byteSize_joinWith (sep : Text) {ps : List Text} (hne : ps ≠ []) :
    byteSize (joinWith sep ps) + byteSize sep =
      (ps.map fun p => byteSize p + byteSize sep).sum := by
  induction ps with
  | nil => exact absurd rfl hne
  | cons p ps ih =>
    cases ps with
    | nil => simp [joinWith]
    | cons q ps =>
      have := ih (List.cons_ne_nil q ps)
      simp only [joinWith, byteSize_append, List.map_cons, List.sum_cons] at this ⊢
      omega

theorem lower_joinWith (ps : List Text) :
    lower (joinWith ['.'] ps) = joinWith ['.'] (ps.map lower) := by
  induction ps with
  | nil => rfl
  | cons p ps ih =>
    cases ps with
    | nil => rfl
    | cons q ps =>
      simp only [joinWith, List.map_cons] at ih ⊢
      rw [← ih]
      simp [lower]

end Text

namespace Quoted

theorem byteSize_escape_le (t : Text) : Text.byteSize (escape t) ≤ 2 * Text.byteSize t := by
  induction t with
  | nil => exact Nat.le_refl _
  | cons c t ih =>
    have hpos := c.utf8Size_pos
    have hslash : ('\\').utf8Size = 1 := rfl
    have hchar : Text.byteSize (escapeChar c) ≤ 2 * c.utf8Size := by
      rw [escapeChar]
      split <;> simp [hslash] <;> omega
    show Text.byteSize (escapeChar c ++ escape t) ≤ _
    rw [Text.byteSize_append, Text.byteSize_cons]
    omega

theorem byteSize_encode_le (t : Text) : Text.byteSize (encode t) ≤ 2 * Text.byteSize t + 2 := by
  have hquote : Text.byteSize ['"'] = 1 := rfl
  have := byteSize_escape_le t
  rw [encode, Text.byteSize_append, Text.byteSize_append, hquote]
  omega

end Quoted

namespace Numeral

theorem byteSize_eq_length {ds : Text} (h : ∀ c ∈ ds, c.isDigit) :
    Text.byteSize ds = ds.length := by
  induction ds with
  | nil => rfl
  | cons c ds ih =>
    obtain ⟨hc, hds⟩ := List.forall_mem_cons.1 h
    have hone : c.utf8Size = 1 := by
      have := toNat_of_isDigit hc
      exact Text.utf8Size_eq_one (by omega)
    rw [Text.byteSize_cons, List.length_cons, ih hds, hone, Nat.add_comm]

/-- A number is written with no more digits than it has been read from. -/
theorem byteSize_digits_le {w : Text} {n : UInt64} (h : readUInt64? w = some n) :
    Text.byteSize (digits n.toNat) ≤ Text.byteSize w := by
  have hdigits {ds : Text} (h : (readNat? ds).bind (fun n =>
      if n ≤ 18446744073709551615 then some (UInt64.ofNat n) else none) = some n) :
      Text.byteSize (digits n.toNat) ≤ Text.byteSize ds := by
    obtain ⟨m, hm, hn⟩ := Option.bind_eq_some_iff.1 h
    obtain ⟨hne, hds, hvalue⟩ := eq_value_of_readNat? hm
    split at hn
    · rename_i hmax
      obtain rfl := Option.some.inj hn
      have hm : (UInt64.ofNat m).toNat = m := UInt64.toNat_ofNat_of_lt' (Nat.lt_succ_of_le hmax)
      have hlt : m < tenTo ds.length := hvalue ▸ value_lt hds
      rw [hm, byteSize_eq_length fun _ h => isDigit_of_mem_digits h, byteSize_eq_length hds]
      exact length_digits_le (List.length_pos_iff.2 hne) hlt
    · cases hn
  unfold readUInt64? at h
  dsimp only at h
  split at h
  · exact Nat.le_trans (hdigits h) (Nat.le_add_left _ _)
  · exact hdigits h

end Numeral

end ResourceQuery
