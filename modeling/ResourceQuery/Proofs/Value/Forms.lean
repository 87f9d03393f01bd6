/-
  Resource queries — the forms of texts.

  * `Decimal.hasOnly_of_read?`, `exists_digit_of_read?`: a decimal has a digit, and no characters
    but digits and the marks of numbers.  `read?_of_readInt64?`: every integer is a decimal.
  * `Value.HasForm`: whether a text is a truth value, a decimal, a date, or has the colon of a
    date-time.
  * `HasForm.unique`: a text has at most one form.
  * `parseAs?_eq_none`: a text of one form has no reading as a type of another.
-/
import ResourceQuery.Proofs.Calendar.Forms
import ResourceQuery.Proofs.Decimal.Text

namespace ResourceQuery

open Numeral

variable {t : Text}

namespace Text

theorem HasOnly.trim_eq {marks : Text} (h : HasOnly marks t)
    (hmarks : ∀ c ∈ marks, ¬ isBlank c) : trim t = t := by
  refine trim_eq_self fun c hc => ?_
  rcases h c hc with hdigit | hmark
  · exact not_isBlank_of_isDigit hdigit
  · exact hmarks c hmark

/-- What stands after a first character stands after a sign. -/
theorem mem_of_append_cons_eq {sign ds s t : Text} {c : Char} (h : sign ++ ds = s ++ c :: t)
    (hlen : sign.length ≤ 1) (hs : s ≠ []) : c ∈ ds := by
  obtain ⟨d, s, rfl⟩ := List.exists_cons_of_ne_nil hs
  have htail : (d :: s ++ c :: t).drop 1 = s ++ c :: t := rfl
  rw [← h, List.drop_append] at htail
  have hc : c ∈ List.drop 1 sign ++ List.drop (1 - sign.length) ds := by
    rw [htail]
    simp
  rw [List.drop_eq_nil_of_le hlen, List.nil_append] at hc
  exact List.mem_of_mem_drop hc

end Text

/-! ## Integers -/

namespace Numeral

/-- What is read as an integer is digits after at most one sign. -/
theorem exists_sign_of_readInt? {i : ℤ} (h : readInt? t = some i) :
    ∃ sign ds, t = sign ++ ds ∧ sign.length ≤ 1 ∧ Text.HasOnly ['-', '+'] sign ∧
      ∀ c ∈ ds, c.isDigit := by
  have hone {c : Char} (hc : c ∈ ['-', '+']) : Text.HasOnly ['-', '+'] [c] :=
    .cons hc Text.hasOnly_nil
  unfold readInt? at h
  split at h
  · rename_i ds
    obtain ⟨_, h, -⟩ := Option.map_eq_some_iff.1 h
    obtain ⟨n, hn, -⟩ := Option.bind_eq_some_iff.1 h
    exact ⟨['-'], ds, rfl, le_rfl, hone (by simp), isDigit_of_readNat? hn⟩
  · rename_i ds
    obtain ⟨n, hn, -⟩ := Option.map_eq_some_iff.1 h
    exact ⟨['+'], ds, rfl, le_rfl, hone (by simp), isDigit_of_readNat? hn⟩
  · obtain ⟨n, hn, -⟩ := Option.map_eq_some_iff.1 h
    exact ⟨[], t, rfl, Nat.zero_le _, Text.hasOnly_nil, isDigit_of_readNat? hn⟩

theorem hasOnly_of_readInt? {i : ℤ} (h : readInt? t = some i) :
    Text.HasOnly ['-', '+'] t := by
  obtain ⟨sign, ds, rfl, -, hsign, hds⟩ := exists_sign_of_readInt? h
  exact hsign.append (Text.hasOnly_of_digits hds)

end Numeral

/-! ## Decimals -/

namespace Decimal

/-- The point is the only character of a mantissa that is left out. -/
theorem mem_splitPoint {c : Char} {t : Text} (hc : c ∈ t) (hpoint : c ≠ '.') :
    c ∈ (splitPoint t).1 := by
  unfold splitPoint
  split
  · exact hc
  · rename_i d fraction hdrop
    have hd : d = '.' := by
      have := List.head?_dropWhile_not (· != '.') t
      rw [hdrop] at this
      simpa using this
    rw [← List.takeWhile_append_dropWhile (p := (· != '.')) (l := t), hdrop, List.mem_append,
      List.mem_cons] at hc
    rcases hc with hc | rfl | hc
    · exact List.mem_append_left _ hc
    · exact absurd hd hpoint
    · exact List.mem_append_right _ hc

theorem mem_of_mem_splitPoint {c : Char} {t : Text} (hc : c ∈ (splitPoint t).1) : c ∈ t := by
  unfold splitPoint at hc
  split at hc
  · exact hc
  · rename_i d fraction hdrop
    rw [← List.takeWhile_append_dropWhile (p := (· != '.')) (l := t), hdrop]
    rcases List.mem_append.1 hc with hc | hc
    · exact List.mem_append_left _ hc
    · exact List.mem_append_right _ (List.mem_cons_of_mem _ hc)

theorem hasOnly_of_readMagnitude? {t : Text} {n : ℕ} (h : readMagnitude? t = some n) :
    Text.HasOnly ['_'] t ∧ ∃ c ∈ t, c.isDigit := by
  rw [readMagnitude?] at h
  split at h
  · rename_i hall
    simp only [Bool.and_eq_true, List.all_eq_true, Bool.not_eq_true', List.isEmpty_eq_false_iff,
      bne_iff_ne, Bool.or_eq_true, beq_iff_eq] at hall
    obtain ⟨⟨hne, hhead⟩, hall⟩ := hall
    refine ⟨fun c hc => by simpa using hall c hc, ?_⟩
    obtain ⟨c, t, rfl⟩ := List.exists_cons_of_ne_nil hne
    rcases hall c List.mem_cons_self with hdigit | rfl
    · exact ⟨c, List.mem_cons_self, hdigit⟩
    · exact absurd rfl hhead
  · cases h

/-- What is read as an unscaled number is digits and underscores after at most one sign. -/
theorem exists_sign_of_readUnscaled? {t : Text} {i : ℤ} (h : readUnscaled? t = some i) :
    ∃ sign ds, t = sign ++ ds ∧ sign.length ≤ 1 ∧ Text.HasOnly ['-', '+'] sign ∧
      Text.HasOnly ['_'] ds ∧ ∃ c ∈ ds, c.isDigit := by
  have hone {c : Char} (hc : c ∈ ['-', '+']) : Text.HasOnly ['-', '+'] [c] :=
    .cons hc Text.hasOnly_nil
  unfold readUnscaled? at h
  split at h
  · rename_i ds
    obtain ⟨_, h, -⟩ := Option.map_eq_some_iff.1 h
    obtain ⟨n, hn, -⟩ := Option.bind_eq_some_iff.1 h
    exact ⟨['-'], ds, rfl, le_rfl, hone (by simp), hasOnly_of_readMagnitude? hn⟩
  · rename_i ds
    obtain ⟨n, hn, -⟩ := Option.map_eq_some_iff.1 h
    exact ⟨['+'], ds, rfl, le_rfl, hone (by simp), hasOnly_of_readMagnitude? hn⟩
  · obtain ⟨n, hn, -⟩ := Option.map_eq_some_iff.1 h
    exact ⟨[], t, rfl, Nat.zero_le _, Text.hasOnly_nil, hasOnly_of_readMagnitude? hn⟩

theorem mem_marks_of_isExponentMark {c : Char} (h : isExponentMark c) :
    c ∈ ['e', 'E'] := by
  rw [isExponentMark, Bool.or_eq_true, beq_iff_eq, beq_iff_eq] at h
  rcases h with rfl | rfl <;> decide

/-- The parts of a decimal: a mantissa, and after it an exponent if there is one. -/
theorem exists_of_read? {t : Text} {d : Decimal} (h : read? t = some d) :
    ∃ mantissa tail, t = mantissa ++ tail ∧ (∀ c ∈ mantissa, ¬ isExponentMark c) ∧
      (tail = [] ∨ ∃ mark exponent e, tail = mark :: exponent ∧ isExponentMark mark ∧
        Numeral.readInt? exponent = some e) ∧
      readUnscaled? (splitPoint mantissa).1 = some d.digits := by
  have hmantissa : ∀ c ∈ t.takeWhile fun c => !isExponentMark c, ¬ isExponentMark c := by
    intro c hc
    simpa using List.mem_takeWhile_imp hc
  refine ⟨_, _, List.takeWhile_append_dropWhile.symm, hmantissa, ?_⟩
  cases htail : t.dropWhile fun c => !isExponentMark c with
  | nil =>
    rw [read?, htail] at h
    obtain ⟨_, -, h⟩ := Option.bind_eq_some_iff.1 h
    obtain ⟨scale, -, h⟩ := Option.bind_eq_some_iff.1 h
    obtain ⟨digits, hdigits, h⟩ := Option.bind_eq_some_iff.1 h
    rw [← Option.some.inj h]
    exact ⟨.inl rfl, hdigits⟩
  | cons mark exponent =>
    have hmark : isExponentMark mark := by
      have := List.head?_dropWhile_not (fun c => !isExponentMark c) t
      rw [htail] at this
      simpa using this
    rw [read?, htail] at h
    obtain ⟨e, he, h⟩ := Option.bind_eq_some_iff.1 h
    obtain ⟨scale, -, h⟩ := Option.bind_eq_some_iff.1 h
    obtain ⟨digits, hdigits, h⟩ := Option.bind_eq_some_iff.1 h
    rw [← Option.some.inj h]
    exact ⟨.inr ⟨mark, exponent, e, rfl, hmark, he⟩, hdigits⟩

theorem hasOnly_of_read? {t : Text} {d : Decimal} (h : read? t = some d) :
    Text.HasOnly ['_', '-', '+', '.', 'e', 'E'] t := by
  obtain ⟨mantissa, tail, rfl, -, htail, hdigits⟩ := exists_of_read? h
  refine .append ?_ ?_
  · intro c hc
    by_cases hpoint : c = '.'
    · exact .inr (by rw [hpoint]; decide)
    obtain ⟨sign, ds, heq, -, hsign, hds, -⟩ := exists_sign_of_readUnscaled? hdigits
    have honly : Text.HasOnly ['_', '-', '+', '.', 'e', 'E'] (splitPoint mantissa).1 := by
      rw [heq]
      exact (hsign.mono (by simp)).append (hds.mono (by simp))
    exact honly c (mem_splitPoint hc hpoint)
  · rcases htail with rfl | ⟨mark, exponent, e, rfl, hmark, he⟩
    · exact Text.hasOnly_nil
    · exact .cons (List.mem_append_right ['_', '-', '+', '.'] (mem_marks_of_isExponentMark hmark))
        ((Numeral.hasOnly_of_readInt? he).mono (by simp))

variable {d : Decimal}

theorem exists_digit_of_read? (h : read? t = some d) : ∃ c ∈ t, c.isDigit := by
  obtain ⟨mantissa, tail, rfl, -, -, hdigits⟩ := exists_of_read? h
  obtain ⟨sign, ds, heq, -, -, -, c, hc, hdigit⟩ := exists_sign_of_readUnscaled? hdigits
  have hmem : c ∈ (splitPoint mantissa).1 := heq ▸ List.mem_append_right _ hc
  exact ⟨c, List.mem_append_left _ (mem_of_mem_splitPoint hmem), hdigit⟩

/-- A decimal has no blanks. -/
theorem trim_of_read? (h : read? t = some d) : Text.trim t = t :=
  (hasOnly_of_read? h).trim_eq (by simp [Text.isBlank])

theorem readMagnitude?_of_readNat? {n : ℕ} (h : Numeral.readNat? t = some n) :
    readMagnitude? t = some n := by
  obtain ⟨hne, hdigits, rfl⟩ := Numeral.eq_value_of_readNat? h
  exact readMagnitude?_digits hne hdigits

theorem readUnscaled?_of_readInt? {i : ℤ} (h : Numeral.readInt? t = some i) :
    readUnscaled? t = some i := by
  unfold Numeral.readInt? at h
  split at h
  · obtain ⟨j, hj, rfl⟩ := Option.map_eq_some_iff.1 h
    obtain ⟨n, hn, hn'⟩ := Option.bind_eq_some_iff.1 hj
    obtain rfl := Option.some.inj hn'
    rw [readUnscaled?, readMagnitude?_of_readNat? hn]
    rfl
  · obtain ⟨n, hn, rfl⟩ := Option.map_eq_some_iff.1 h
    rw [readUnscaled?, readMagnitude?_of_readNat? hn]
    rfl
  · rename_i hminus hplus
    obtain ⟨n, hn, rfl⟩ := Option.map_eq_some_iff.1 h
    rw [readUnscaled?.eq_3 t hminus hplus, readMagnitude?_of_readNat? hn]
    rfl

/-- Integers are decimals without places. -/
theorem read?_of_readInt64? {i : Int64} (h : Numeral.readInt64? t = some i) :
    read? t = some (ofInt i.toInt) := by
  obtain ⟨j, hj, hi⟩ := Option.bind_eq_some_iff.1 h
  obtain rfl := Numeral.int64?_eq_some.1 hi
  have honly := Numeral.hasOnly_of_readInt? hj
  have hread : read? (t ++ []) = some (ofInt i.toInt) :=
    read?_append (not_isExponentMark_of_hasOnly honly (by simp) (by simp)) (.inl ⟨rfl, rfl⟩)
      (splitPoint_eq_self (honly.not_mem rfl (by simp))) rfl (readUnscaled?_of_readInt? hj)
  rwa [List.append_nil] at hread

/-- A hyphen after the first characters is no sign, so no decimal is a date. -/
theorem read?_of_date {date : Date} (h : Date.read? t = some date) : read? t = none := by
  have hchars := Date.isDateChar_of_read? h
  rw [Option.eq_none_iff_forall_ne_some]
  intro d hd
  obtain ⟨mantissa, tail, rfl, -, htail, hdigits⟩ := exists_of_read? hd
  obtain rfl : tail = [] := by
    rcases htail with rfl | ⟨mark, exponent, e, rfl, hmark, -⟩
    · rfl
    · have hdate := hchars mark (by simp)
      rcases List.mem_cons.1 (mem_marks_of_isExponentMark hmark) with rfl | hmark
      · exact absurd hdate (by decide)
      · rw [List.mem_singleton.1 hmark] at hdate
        exact absurd hdate (by decide)
  rw [List.append_nil] at h hchars
  have hpoint : '.' ∉ mantissa := fun hmem => absurd (hchars _ hmem) (by decide)
  rw [splitPoint_eq_self hpoint] at hdigits
  obtain ⟨front, rest, hfront, hne⟩ := Date.exists_hyphen_of_read? h
  obtain ⟨sign, ds, heq, hlen, -, hds, -⟩ := exists_sign_of_readUnscaled? hdigits
  have hmem : '-' ∈ ds := Text.mem_of_append_cons_eq (heq.symm.trans hfront) hlen hne
  exact hds.not_mem rfl (by decide) hmem

end Decimal

/-! ## Truth values -/

namespace Value

/-- The letters of truth values. -/
def truthLetters : Text := ['t', 'r', 'u', 'e', 'f', 'a', 'l', 's']

/-- A text with some other character is no truth value. -/
theorem readBoolean?_eq_none {t : Text} {c : Char} (hc : c ∈ t) (hletter : c.toLower ∉ truthLetters) :
    readBoolean? t = none := by
  have hother (word : Text) (hword : Text.lower word ⊆ truthLetters) :
      Text.sameLetters t word = false := by
    rw [Text.sameLetters, beq_eq_false_iff_ne]
    intro heq
    have hmem : c.toLower ∈ Text.lower word := heq ▸ List.mem_map_of_mem hc
    exact hletter (hword hmem)
  rw [readBoolean?, hother _ (by decide), hother _ (by decide)]
  rfl

theorem toLower_not_mem_truthLetters {c : Char} (hdigit : c.isDigit) :
    c.toLower ∉ truthLetters := by
  have hlower : c.toLower = c := by
    have hn := Numeral.toNat_of_isDigit hdigit
    refine Char.toNat_inj.1 ?_
    rw [toNat_toLower, if_neg (by omega)]
  have hletters : ∀ d ∈ truthLetters, ¬ d.isDigit = true := by simp [truthLetters, Char.isDigit]
  rw [hlower]
  exact fun hmem => hletters c hmem hdigit

theorem readBoolean?_eq_none_of_digit {c : Char} (hc : c ∈ t) (hdigit : c.isDigit) :
    readBoolean? t = none := readBoolean?_eq_none hc (toLower_not_mem_truthLetters hdigit)

/-- A truth value has no blanks. -/
theorem trim_of_readBoolean? {b : Bool} (h : readBoolean? t = some b) : Text.trim t = t := by
  refine Text.trim_eq_self fun c hc hblank => ?_
  have hletter : c.toLower ∉ truthLetters := by
    intro hmem
    have hsmall : ∀ d ∈ truthLetters, 97 ≤ d.toNat ∧ d.toNat ≤ 122 := by simp [truthLetters]
    have hlower := hsmall _ hmem
    rw [toNat_toLower] at hlower
    simp only [Text.isBlank, Bool.or_eq_true, Bool.and_eq_true, decide_eq_true_eq,
      beq_iff_eq] at hblank
    split_ifs at hlower <;> omega
  rw [readBoolean?_eq_none hc hletter] at h
  cases h

/-! ## Forms -/

/-- The forms that a text can have, each named for a type of values.  Not every text with a colon
    is a date-time, but no other form has a colon. -/
inductive HasForm (t : Text) : DataType → Prop
  | boolean {b : Bool} : readBoolean? t = some b → HasForm t .boolean
  | decimal {d : Decimal} : Decimal.read? t = some d → HasForm t .decimal
  | date {d : Date} : Date.read? t = some d → HasForm t .date
  | dateTime : ':' ∈ t → HasForm t .dateTime

variable {k k' : DataType}

/-- A text has at most one form. -/
theorem HasForm.unique (h : HasForm t k) (h' : HasForm t k') : k = k' := by
  have hdigit {b : Bool} (hb : readBoolean? t = some b) (hex : ∃ c ∈ t, c.isDigit) : False := by
    obtain ⟨c, hc, hdigit⟩ := hex
    rw [readBoolean?_eq_none_of_digit hc hdigit] at hb
    cases hb
  have hboolean {b : Bool} (hb : readBoolean? t = some b) : ':' ∉ t := by
    intro hcolon
    rw [readBoolean?_eq_none hcolon (by decide)] at hb
    cases hb
  have hdecimal {d : Decimal} (hd : Decimal.read? t = some d) : ':' ∉ t :=
    (Decimal.hasOnly_of_read? hd).not_mem rfl (by decide)
  have hdate {d : Date} (hd : Date.read? t = some d) : ':' ∉ t :=
    fun hcolon => absurd (Date.isDateChar_of_read? hd _ hcolon) (by decide)
  have hboth {d : Decimal} {date : Date} (hd : Decimal.read? t = some d)
      (hdate : Date.read? t = some date) : False := by
    cases hd.symm.trans (Decimal.read?_of_date hdate)
  cases h with
  | boolean hb =>
    cases h' with
    | boolean => rfl
    | decimal hd => exact (hdigit hb (Decimal.exists_digit_of_read? hd)).elim
    | date hd => exact (hdigit hb (Date.exists_digit_of_read? hd)).elim
    | dateTime hc => exact absurd hc (hboolean hb)
  | decimal hd =>
    cases h' with
    | boolean hb => exact (hdigit hb (Decimal.exists_digit_of_read? hd)).elim
    | decimal => rfl
    | date hd' => exact (hboth hd hd').elim
    | dateTime hc => exact absurd hc (hdecimal hd)
  | date hd =>
    cases h' with
    | boolean hb => exact (hdigit hb (Date.exists_digit_of_read? hd)).elim
    | decimal hd' => exact (hboth hd' hd).elim
    | date => rfl
    | dateTime hc => exact absurd hc (hdate hd)
  | dateTime hc =>
    cases h' with
    | boolean hb => exact absurd hc (hboolean hb)
    | decimal hd => exact absurd hc (hdecimal hd)
    | date hd => exact absurd hc (hdate hd)
    | dateTime => rfl

section

variable (h : HasForm t k)
include h

theorem HasForm.boolean_eq_none (hk : k ≠ .boolean) : readBoolean? t = none := by
  rw [Option.eq_none_iff_forall_ne_some]
  exact fun _ hb => hk (h.unique (.boolean hb))

theorem HasForm.decimal_eq_none (hk : k ≠ .decimal) : Decimal.read? t = none := by
  rw [Option.eq_none_iff_forall_ne_some]
  exact fun _ hd => hk (h.unique (.decimal hd))

theorem HasForm.integer_eq_none (hk : k ≠ .decimal) : Numeral.readInt64? t = none := by
  rw [Option.eq_none_iff_forall_ne_some]
  exact fun _ hi => hk (h.unique (.decimal (Decimal.read?_of_readInt64? hi)))

theorem HasForm.date_eq_none (hk : k ≠ .date) : Date.read? t = none := by
  rw [Option.eq_none_iff_forall_ne_some]
  exact fun _ hd => hk (h.unique (.date hd))

theorem HasForm.dateTime_eq_none (hk : k ≠ .dateTime) : Instant.read? t = none := by
  rw [Option.eq_none_iff_forall_ne_some]
  exact fun _ hi => hk (h.unique (.dateTime (Instant.shape_of_read? hi).1))

end

/-- The types that a text of the form `k` has readings as: days are instants and the other way
    round, and integers are written like decimals. -/
def Serves (k : DataType) : DataType → Prop
  | .boolean => k = .boolean
  | .integer | .decimal => k = .decimal
  | .date | .dateTime => k = .date ∨ k = .dateTime
  | .string | .float => True

/-- What is read as a type has a form that serves it. -/
theorem exists_hasForm_of_parseAs? {T : DataType} {v : Value} (hT : T ≠ .string ∧ T ≠ .float)
    (h : parseAs? t T = some v) : ∃ k, HasForm (Text.trim t) k ∧ Serves k T := by
  cases T with
  | string => exact absurd rfl hT.1
  | float => exact absurd rfl hT.2
  | boolean =>
    obtain ⟨b, hb, -⟩ := Option.map_eq_some_iff.1 h
    exact ⟨_, .boolean hb, rfl⟩
  | integer =>
    obtain ⟨i, hi, -⟩ := Option.map_eq_some_iff.1 h
    exact ⟨_, .decimal (Decimal.read?_of_readInt64? hi), rfl⟩
  | decimal =>
    obtain ⟨d, hd, -⟩ := Option.map_eq_some_iff.1 h
    exact ⟨_, .decimal hd, rfl⟩
  | date =>
    obtain ⟨d, hd, -⟩ := Option.map_eq_some_iff.1 h
    rcases (Option.orElse_eq_some _ _ _).1 hd with hd | ⟨-, hi⟩
    · exact ⟨_, .date hd, .inl rfl⟩
    · obtain ⟨i, hi, -⟩ := Option.bind_eq_some_iff.1 hi
      exact ⟨_, .dateTime (Instant.shape_of_read? hi).1, .inr rfl⟩
  | dateTime =>
    obtain ⟨i, hi, -⟩ := Option.map_eq_some_iff.1 h
    rcases (Option.orElse_eq_some _ _ _).1 hi with hi | ⟨-, hd⟩
    · exact ⟨_, .dateTime (Instant.shape_of_read? hi).1, .inr rfl⟩
    · obtain ⟨d, hd, -⟩ := Option.map_eq_some_iff.1 hd
      exact ⟨_, .date hd, .inl rfl⟩

/-- A text of a form has no reading as a type that the form does not serve. -/
theorem parseAs?_eq_none {T : DataType} (h : HasForm (Text.trim t) k) (hk : ¬ Serves k T) :
    parseAs? t T = none := by
  have hT : T ≠ .string ∧ T ≠ .float := by
    constructor <;> (rintro rfl; exact hk trivial)
  rw [Option.eq_none_iff_forall_ne_some]
  intro v hv
  obtain ⟨k', h', hk'⟩ := exists_hasForm_of_parseAs? hT hv
  exact hk (h.unique h' ▸ hk')

end Value

end ResourceQuery
