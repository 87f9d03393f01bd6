/-
  Resource queries — numerals read back.

  * `Text.HasOnly`: the characters of a text are digits and given marks, and no others
    (`HasOnly.not_mem`).
  * `value_digits`, `value_padded`: the digits of a number denote it, with zeros before them too.
  * `value_lt`: so many digits denote a number below that power of ten.
  * `readNat?_digits`, `readInt?_ofInt`, `readInt64?_ofInt`, `readUInt64?_digits`: what is
    written for a number is read as that number.
-/
import ResourceQuery.Text.Numeral

namespace ResourceQuery

/-! ## Digits and marks -/

namespace Text

variable {marks s t : Text} {c : Char}

/-- Whether a text has no characters but digits and the given marks. -/
def HasOnly (marks t : Text) : Prop := ∀ c ∈ t, c.isDigit ∨ c ∈ marks

theorem hasOnly_of_digits (h : ∀ c ∈ t, c.isDigit) : HasOnly marks t := fun c hc => .inl (h c hc)

theorem hasOnly_nil : HasOnly marks [] := List.forall_mem_nil _

theorem HasOnly.append (hs : HasOnly marks s) (ht : HasOnly marks t) : HasOnly marks (s ++ t) :=
  List.forall_mem_append.2 ⟨hs, ht⟩

theorem HasOnly.cons (hc : c ∈ marks) (ht : HasOnly marks t) : HasOnly marks (c :: t) :=
  List.forall_mem_cons.2 ⟨.inr hc, ht⟩

theorem HasOnly.mono {marks' : Text} (h : HasOnly marks t) (hsub : marks ⊆ marks') :
    HasOnly marks' t := fun c hc => (h c hc).imp_right fun hm => hsub hm

theorem HasOnly.not_mem (h : HasOnly marks t) (hd : c.isDigit = false) (hc : c ∉ marks) :
    c ∉ t := by
  intro hmem
  rcases h c hmem with hdigit | hmark
  · rw [hd] at hdigit
    cases hdigit
  · exact hc hmark

end Text

namespace Numeral

/-! ## Digits -/

theorem value_eq (ds : Text) : value ds = Nat.ofDigitChars 10 ds 0 := rfl

@[simp] theorem value_nil : value [] = 0 := rfl

theorem value_digits (n : Nat) : value (digits n) = n := Nat.ofDigitChars_ten_toDigits

theorem value_append (s t : Text) : value (s ++ t) = value s * tenTo t.length + value t := by
  rw [value_eq, Nat.ofDigitChars_append, Nat.ofDigitChars_eq_ofDigitChars_zero, Nat.mul_comm]
  rfl

theorem value_zeros (k : Nat) (ds : Text) : value (List.replicate k '0' ++ ds) = value ds := by
  rw [value_eq, Nat.ofDigitChars_append, Nat.ofDigitChars_replicate_zero, Nat.mul_zero]
  rfl

theorem digits_ne_nil (n : Nat) : digits n ≠ [] := Nat.toDigits_ne_nil

theorem isDigit_of_mem_digits {n : Nat} {c : Char} (h : c ∈ digits n) : c.isDigit :=
  Nat.isDigit_of_mem_toDigits (by decide) (by decide) h

theorem toNat_of_isDigit {c : Char} (h : c.isDigit) : 48 ≤ c.toNat ∧ c.toNat ≤ 57 := by
  simpa [Char.isDigit, UInt32.le_iff_toNat_le] using h

/-- A run of digits denotes a number of no more digits. -/
theorem value_lt {ds : Text} (h : ∀ c ∈ ds, c.isDigit) : value ds < tenTo ds.length := by
  induction ds with
  | nil => decide
  | cons c ds ih =>
    obtain ⟨hc, hds⟩ := List.forall_mem_cons.1 h
    have hdigit : value [c] ≤ 9 := by
      have := toNat_of_isDigit hc
      show 10 * 0 + (c.toNat - 48) ≤ 9
      omega
    have hvalue : value (c :: ds) = value [c] * tenTo ds.length + value ds := value_append [c] ds
    have htens : tenTo (c :: ds).length = 10 * tenTo ds.length := by
      simp only [tenTo, Nat.pow_eq, List.length_cons, Nat.pow_succ]
      exact Nat.mul_comm _ _
    have hmul : value [c] * tenTo ds.length ≤ 9 * tenTo ds.length := Nat.mul_le_mul_right _ hdigit
    have := ih hds
    omega

theorem length_digits_le {width n : Nat} (hw : 0 < width) (h : n < tenTo width) :
    (digits n).length ≤ width := (Nat.length_toDigits_le_iff (by decide) hw).2 h

theorem value_padded (width n : Nat) : value (padded width n) = n := by
  rw [padded, value_zeros, value_digits]

theorem isDigit_of_mem_padded {width n : Nat} {c : Char} (h : c ∈ padded width n) :
    c.isDigit := by
  rcases List.mem_append.1 h with h | h
  · rw [List.eq_of_mem_replicate h]; decide
  · exact isDigit_of_mem_digits h

/-- Numbers of at most so many digits are filled up to exactly so many. -/
theorem length_padded {width n : Nat} (hw : 0 < width) (h : n < tenTo width) :
    (padded width n).length = width := by
  have hle := length_digits_le hw h
  simp only [padded, List.length_append, List.length_replicate]
  omega

/-! ## Reading -/

theorem readNat?_eq_some {t : Text} (hne : t ≠ []) (h : ∀ c ∈ t, c.isDigit) :
    readNat? t = some (value t) := by
  have hall : t.all Char.isDigit := by simpa using h
  simp [readNat?, hne, hall]

/-- Only a run of digits is read, as the number that it denotes. -/
theorem eq_value_of_readNat? {t : Text} {n : Nat} (h : readNat? t = some n) :
    t ≠ [] ∧ (∀ c ∈ t, c.isDigit) ∧ n = value t := by
  rw [readNat?] at h
  split at h
  · rename_i hall
    rw [Bool.and_eq_true, Bool.not_eq_true', List.isEmpty_eq_false_iff, List.all_eq_true] at hall
    exact ⟨hall.1, hall.2, (Option.some.inj h).symm⟩
  · cases h

theorem isDigit_of_readNat? {t : Text} {n : Nat} (h : readNat? t = some n) :
    ∀ c ∈ t, c.isDigit := (eq_value_of_readNat? h).2.1

theorem readNat?_digits (n : Nat) : readNat? (digits n) = some n := by
  rw [readNat?_eq_some (digits_ne_nil n) fun _ h => isDigit_of_mem_digits h, value_digits]

/-- Digits do not begin with a sign. -/
theorem head_digits {t : Text} (h : ∀ c ∈ t, c.isDigit) :
    t.head? ≠ some '-' ∧ t.head? ≠ some '+' := by
  cases t with
  | nil => simp
  | cons c t =>
    have hc : c.isDigit := h c List.mem_cons_self
    constructor <;> (rintro ⟨⟩; exact absurd hc (by decide))

theorem readInt?_unsigned {t : Text} (h : t.head? ≠ some '-' ∧ t.head? ≠ some '+') :
    readInt? t = (readNat? t).map Int.ofNat := by
  rw [readInt?.eq_3]
  · rintro r rfl; exact h.1 rfl
  · rintro r rfl; exact h.2 rfl

theorem readInt?_ofInt (i : Int) : readInt? (ofInt i) = some i := by
  cases i with
  | ofNat n =>
    rw [ofInt, readInt?_unsigned (head_digits fun _ h => isDigit_of_mem_digits h), readNat?_digits]
    rfl
  | negSucc n =>
    rw [ofInt, readInt?, readNat?_digits]
    rfl

theorem int64?_toInt (i : Int64) : int64? i.toInt = some i := by
  have hmin : -9223372036854775808 ≤ i.toInt := i.le_toInt
  have hmax : i.toInt ≤ 9223372036854775807 := Int.le_of_lt_add_one i.toInt_lt
  rw [int64?, if_pos ⟨hmin, hmax⟩, Int64.ofInt_toInt]

theorem int64?_eq_some {i : Int} {n : Int64} : int64? i = some n ↔ n.toInt = i := by
  constructor
  · intro h
    rw [int64?] at h
    split at h
    · rename_i hi
      rw [← Option.some.inj h]
      exact Int64.toInt_ofInt_of_le hi.1 (Int.lt_add_one_of_le hi.2)
    · cases h
  · rintro rfl
    exact int64?_toInt n

theorem readInt64?_ofInt (i : Int64) : readInt64? (ofInt i.toInt) = some i := by
  rw [readInt64?, readInt?_ofInt]
  exact int64?_toInt i

theorem readUInt64?_digits (n : UInt64) : readUInt64? (digits n.toNat) = some n := by
  have hle : n.toNat ≤ 18446744073709551615 := Nat.le_of_lt_succ n.toNat_lt
  have hplus := (head_digits (t := digits n.toNat) fun _ h => isDigit_of_mem_digits h).2
  unfold readUInt64?
  dsimp only
  split
  · rename_i ds h
    rw [h] at hplus
    exact absurd rfl hplus
  · rw [readNat?_digits, Option.bind_some, if_pos hle, UInt64.ofNat_toNat]

end Numeral

end ResourceQuery
