/-
  Resource queries — dates and instants read back.

  * `scanNumber_append`, `scanDigits_append`, `scanFraction_append`: what the scanners take of a
    text that begins with digits.
  * `Date.read?_toText`: every date is read from its text.
  * `Instant.IsClocked`, `Instant.shown`: the instants whose time a clock shows, and what it shows
    for any instant.  The two have one text (`toText_shown`).
  * `Instant.read?_toText`: the text of an instant is read as the shown instant when its year is
    written without a sign, and is no date-time otherwise.
-/
import Mathlib.Tactic.NormNum
import ResourceQuery.Calendar.Reader
import ResourceQuery.Proofs.Target
import ResourceQuery.Proofs.Text.Numeral

namespace ResourceQuery

open Numeral

/-! ## Clocks -/

namespace Instant

/-- Whether a clock shows the time of an instant: its nanoseconds run on only in the last second of
    a minute, which a leap second follows. -/
def IsClocked (i : Instant) : Prop := 1000000000 ≤ i.nano → i.second % 60 = 59

instance (i : Instant) : Decidable i.IsClocked := inferInstanceAs (Decidable (_ → _))

/-- Within a minute there is a next second. -/
theorem isTimeOfDay_next {i : Instant} (h : ¬ i.IsClocked) :
    IsTimeOfDay (i.second + 1) (i.nano - 1000000000) := by
  have hvalid := i.valid
  rw [IsTimeOfDay] at hvalid ⊢
  rw [IsClocked] at h
  omega

/-- The instant that a clock shows: where nanoseconds run on within a minute, the next second. -/
def shown (i : Instant) : Instant :=
  if h : i.IsClocked then i
  else ⟨i.date, i.second + 1, i.nano - 1000000000, isTimeOfDay_next h⟩

theorem shown_of_not_isClocked {i : Instant} (h : ¬ i.IsClocked) :
    i.shown.second = i.second + 1 ∧ i.shown.nano = i.nano - 1000000000 := by
  rw [shown, dif_neg h]
  exact ⟨rfl, rfl⟩

variable (i : Instant)

@[simp] theorem date_shown : i.shown.date = i.date := by
  rw [shown]
  split <;> rfl

theorem isClocked_shown : i.shown.IsClocked := by
  rw [shown]
  split
  · assumption
  · intro hnano
    have := i.valid.2
    dsimp only at hnano
    omega

theorem shown_eq_self_iff {i : Instant} : i.shown = i ↔ i.IsClocked := by
  constructor
  · intro h
    exact h ▸ i.isClocked_shown
  · exact fun h => dif_pos h

/-- Two instants that are shown alike are one if a clock shows the time of both or of neither. -/
theorem eq_iff_of_shown_eq {i j : Instant} (h : i.shown = j.shown) :
    i = j ↔ (i.IsClocked ↔ j.IsClocked) := by
  constructor
  · rintro rfl
    rfl
  intro hclock
  by_cases hi : i.IsClocked
  · rwa [shown_eq_self_iff.2 hi, shown_eq_self_iff.2 (hclock.1 hi)] at h
  · have hj : ¬ j.IsClocked := mt hclock.2 hi
    obtain ⟨hsecond, hnano⟩ := shown_of_not_isClocked hi
    obtain ⟨hsecond', hnano'⟩ := shown_of_not_isClocked hj
    have hdate := i.date_shown.symm.trans ((congrArg date h).trans j.date_shown)
    rw [h] at hsecond hnano
    rw [IsClocked] at hi hj
    obtain ⟨date, second, nano, _⟩ := i
    obtain ⟨date', second', nano', _⟩ := j
    simp only [mk.injEq] at *
    exact ⟨hdate, by omega, by omega⟩

/-- An instant is written like the one that a clock shows. -/
theorem toText_shown : i.shown.toText = i.toText := by
  by_cases h : i.IsClocked
  · rw [shown_eq_self_iff.2 h]
  · obtain ⟨hsecond, hnano⟩ := shown_of_not_isClocked h
    have hvalid := i.valid.2
    rw [IsClocked] at h
    have hhour : (i.second + 1) / 3600 = i.second / 3600 := by omega
    have hminute : (i.second + 1) / 60 % 60 = i.second / 60 % 60 := by omega
    have hleap : (i.second + 1) % 60 + (i.nano - 1000000000) / 1000000000 =
        i.second % 60 + i.nano / 1000000000 := by omega
    have hfraction : (i.nano - 1000000000) % 1000000000 = i.nano % 1000000000 := by omega
    rw [toText, toText, date_shown, hsecond, hnano, timeText, timeText, hhour, hminute, hleap,
      hfraction]

/-- Half past ten and one and a half seconds, all of them in nanoseconds. -/
def overrun : Instant := ⟨⟨2024, 1, 5, by decide⟩, 37800, 1500000000, by decide⟩

example : overrun.shown = ⟨⟨2024, 1, 5, by decide⟩, 37801, 500000000, by decide⟩ := rfl

/-- Half a second into the leap second at the end of the year 2016. -/
def leapSecond : Instant := ⟨⟨2016, 12, 31, by decide⟩, 86399, 1500000000, by decide⟩

end Instant

namespace Calendar

/-! ## Scanners -/

/-- Whether a text does not begin with a digit. -/
def EndsNumber (t : Text) : Prop := ∀ c ∈ t.head?, ¬ c.isDigit

theorem endsNumber_cons {c : Char} (h : c.isDigit = false) (t : Text) : EndsNumber (c :: t) := by
  rintro _ ⟨⟩
  rw [h]
  exact Bool.false_ne_true

theorem takeWhile_digits {ds rest : Text} (hds : ∀ c ∈ ds, c.isDigit) (h : EndsNumber rest) :
    (ds ++ rest).takeWhile Char.isDigit = ds := by
  rw [List.takeWhile_append_of_pos hds]
  cases rest with
  | nil => simp
  | cons c rest => simp [h c rfl]

theorem dropWhile_digits {ds rest : Text} (hds : ∀ c ∈ ds, c.isDigit) (h : EndsNumber rest) :
    (ds ++ rest).dropWhile Char.isDigit = rest := by
  rw [List.dropWhile_append_of_pos hds]
  cases rest with
  | nil => simp
  | cons c rest => simp [h c rfl]

theorem scanNumber_append {most : ℕ} {ds rest : Text} (hne : ds ≠ []) (hmost : ds.length ≤ most)
    (hds : ∀ c ∈ ds, c.isDigit) (h : EndsNumber rest) :
    scanNumber most (ds ++ rest) = some (value ds, rest) := by
  have hrest : EndsNumber (rest.take (most - ds.length)) := by
    intro c hc
    refine h c ?_
    rw [List.head?_take] at hc
    split at hc
    · cases hc
    · exact hc
  have htake : ((ds ++ rest).take most).takeWhile Char.isDigit = ds := by
    rw [List.take_append, List.take_of_length_le hmost, takeWhile_digits hds hrest]
  simp [scanNumber, htake, hne]

theorem scanDigits_append {ds rest : Text} (hds : ∀ c ∈ ds, c.isDigit) {count : ℕ}
    (hcount : ds.length = count) : scanDigits count (ds ++ rest) = some (value ds, rest) := by
  subst hcount
  have hall : ds.all Char.isDigit := List.all_eq_true.2 hds
  simp [scanDigits, hall]

theorem scanDigits_eq_none {count : ℕ} {c : Char} {t : Text} (hc : c.isDigit = false)
    (hcount : 0 < count) : scanDigits count (c :: t) = none := by
  obtain ⟨n, rfl⟩ := Nat.exists_eq_succ_of_ne_zero hcount.ne'
  simp [scanDigits, hc]

theorem scanNumber_eq_none {most : ℕ} {c : Char} {t : Text} (hc : c.isDigit = false) :
    scanNumber most (c :: t) = none := by
  cases most <;> simp [scanNumber, hc]

/-- Digits are no blanks and no signs. -/
theorem head_digits_append {ds : Text} (hne : ds ≠ []) (hds : ∀ c ∈ ds, c.isDigit)
    (rest : Text) :
    Text.trimStart (ds ++ rest) = ds ++ rest ∧ (ds ++ rest).head? ≠ some '-' ∧
      (ds ++ rest).head? ≠ some '+' := by
  have hhead : (ds ++ rest).head? = ds.head? := List.head?_append_of_ne_nil _ hne
  refine ⟨Text.trimStart_eq_self ?_, ?_⟩
  · intro c hc
    rw [hhead] at hc
    exact not_isBlank_of_isDigit (hds c (List.mem_of_mem_head? hc))
  · rw [hhead]
    exact Numeral.head_digits hds

/-- Two digits, after which no other comes. -/
theorem scanShort_padded {n : ℕ} (hn : n < 100) {rest : Text} (h : EndsNumber rest) :
    scanShort (padded 2 n ++ rest) = some (n, rest) := by
  have hlen : (padded 2 n).length = 2 := length_padded (by decide) hn
  have hds : ∀ c ∈ padded 2 n, c.isDigit := fun c hc => isDigit_of_mem_padded hc
  have hne : padded 2 n ≠ [] := List.ne_nil_of_length_eq_add_one hlen
  obtain ⟨hstart, -⟩ := head_digits_append hne hds rest
  rw [scanShort, hstart, scanNumber_append hne hlen.le hds h, value_padded]

theorem scanDigits_padded {width n : ℕ} (hw : 0 < width) (hn : n < tenTo width) (rest : Text) :
    scanDigits width (padded width n ++ rest) = some (n, rest) := by
  rw [scanDigits_append (fun c hc => isDigit_of_mem_padded hc) (length_padded hw hn), value_padded]

/-- What a scanner has found goes on to the next. -/
theorem bind_eq_of_eq_some {α β : Type} {x : Option α} {a : α} (h : x = some a)
    (f : α → Option β) : (x >>= f) = f a := by
  rw [h]
  rfl

theorem scanChar_self (c : Char) (t : Text) : scanChar c (c :: t) = some t := by
  rw [scanChar, if_pos rfl]

/-- Fewer than ten digits after a point count their unit in nanoseconds. -/
theorem scanFraction_padded {places n : ℕ} (hplaces : 0 < places ∧ places ≤ 9)
    (hn : n < tenTo places) {rest : Text} (h : EndsNumber rest) :
    scanFraction ('.' :: padded places n ++ rest) = some (n * tenTo (9 - places), rest) := by
  have hlen : (padded places n).length = places := length_padded hplaces.1 hn
  have hds : ∀ c ∈ padded places n, c.isDigit := fun c hc => isDigit_of_mem_padded hc
  have hne : padded places n ≠ [] := by
    rw [← List.length_pos_iff, hlen]
    exact hplaces.1
  have htake : (padded places n).take 9 = padded places n :=
    List.take_of_length_le (hlen.trans_le hplaces.2)
  rw [List.cons_append, scanFraction, takeWhile_digits hds h, dropWhile_digits hds h]
  simp [hne, htake, hlen, value_padded]

/-- A fraction is read from as few groups of digits as lose nothing of it. -/
theorem scanFraction_append {n : ℕ} (hn : n < 1000000000) {rest : Text} (h : EndsNumber rest)
    (hpoint : rest.head? ≠ some '.') :
    scanFraction (Instant.fractionText n ++ rest) = some (n, rest) := by
  have hgroups {places unit : ℕ} (hplaces : 0 < places ∧ places ≤ 9)
      (hunit : tenTo (9 - places) = unit) (hsmall : n / unit < tenTo places)
      (hwhole : n % unit = 0) :
      scanFraction ('.' :: padded places (n / unit) ++ rest) = some (n, rest) := by
    have hdvd : unit ∣ n := Nat.dvd_of_mod_eq_zero hwhole
    rw [scanFraction_padded hplaces hsmall h, hunit, Nat.div_mul_cancel hdvd]
  have htenTo (k : ℕ) : tenTo k = 10 ^ k := Nat.pow_eq
  rw [Instant.fractionText]
  by_cases hzero : n = 0
  · rw [if_pos hzero, List.nil_append, scanFraction.eq_2, hzero]
    rintro t rfl
    exact hpoint rfl
  rw [if_neg hzero]
  by_cases hmilli : n % 1000000 = 0
  · rw [if_pos hmilli]
    exact hgroups (by omega) rfl (by rw [htenTo]; omega) hmilli
  rw [if_neg hmilli]
  by_cases hmicro : n % 1000 = 0
  · rw [if_pos hmicro]
    exact hgroups (by omega) rfl (by rw [htenTo]; omega) hmicro
  · have hnano : scanFraction ('.' :: padded 9 (n / 1) ++ rest) = some (n, rest) :=
      hgroups (by omega) rfl (by rw [htenTo]; omega) (Nat.mod_one n)
    rw [Nat.div_one] at hnano
    rw [if_neg hmicro]
    exact hnano

/-! ## Dates -/

/-- Whether a year is written without a sign. -/
def IsPlainYear (year : ℤ) : Prop := 0 ≤ year ∧ year ≤ 9999

instance (year : ℤ) : Decidable (IsPlainYear year) := inferInstanceAs (Decidable (_ ∧ _))

theorem yearText_plain {year : ℤ} (h : IsPlainYear year) :
    Date.yearText year = padded 4 year.natAbs := if_pos h

theorem yearText_signed {year : ℤ} (h : ¬ IsPlainYear year) :
    ∃ sign, (sign = '-' ∧ year < 0 ∨ sign = '+' ∧ 0 ≤ year) ∧
      Date.yearText year = sign :: padded 4 year.natAbs := by
  have hrange : ¬ (0 ≤ year ∧ year ≤ 9999) := h
  rw [Date.yearText, if_neg hrange]
  by_cases hneg : year < 0
  · exact ⟨'-', .inl ⟨rfl, hneg⟩, by rw [if_pos hneg]⟩
  · exact ⟨'+', .inr ⟨rfl, not_lt.1 hneg⟩, by rw [if_neg hneg]⟩

theorem padded_ne_nil (width n : ℕ) : padded width n ≠ [] :=
  List.append_ne_nil_of_right_ne_nil _ (digits_ne_nil n)

theorem natAbs_lt_of_isPlainYear {year : ℤ} (h : IsPlainYear year) :
    year.natAbs < tenTo 4 := by
  show year.natAbs < 10000
  have := h.1
  have := h.2
  omega

/-- Digits of which there may be any number are read up to their end. -/
theorem scanNumber_padded (width n : ℕ) {rest : Text} (h : EndsNumber rest) :
    scanNumber (padded width n ++ rest).length (padded width n ++ rest) = some (n, rest) := by
  have hds : ∀ c ∈ padded width n, c.isDigit := fun c hc => isDigit_of_mem_padded hc
  rw [scanNumber_append (padded_ne_nil width n) (by simp) hds h, value_padded]

theorem scanYear_plain {year : ℤ} (hyear : IsPlainYear year) {rest : Text} (h : EndsNumber rest) :
    scanYear (Date.yearText year ++ rest) = some (year, rest) := by
  have hds : ∀ c ∈ padded 4 year.natAbs, c.isDigit := fun c hc => isDigit_of_mem_padded hc
  have hne := padded_ne_nil 4 year.natAbs
  obtain ⟨htrim, hminus, hplus⟩ := head_digits_append hne hds rest
  have hlen : (padded 4 year.natAbs).length ≤ 4 :=
    (length_padded (by decide) (natAbs_lt_of_isPlainYear hyear)).le
  have hnat : (year.natAbs : ℤ) = year := Int.natAbs_of_nonneg hyear.1
  rw [yearText_plain hyear]
  unfold scanYear
  rw [htrim]
  split
  · rename_i t ht
    rw [ht] at hminus
    exact absurd rfl hminus
  · rename_i t ht
    rw [ht] at hplus
    exact absurd rfl hplus
  · rw [scanNumber_append hne hlen hds h, value_padded]
    show some ((year.natAbs : ℤ), rest) = some (year, rest)
    rw [hnat]

theorem scanYear_signed {year : ℤ} (hyear : ¬ IsPlainYear year) {rest : Text}
    (h : EndsNumber rest) : scanYear (Date.yearText year ++ rest) = some (year, rest) := by
  have hdigits := scanNumber_padded 4 year.natAbs h
  obtain ⟨sign, hsign, htext⟩ := yearText_signed hyear
  have hblank : ¬ Text.isBlank sign := by
    rcases hsign with ⟨rfl, -⟩ | ⟨rfl, -⟩ <;> decide
  have htrim : Text.trimStart (sign :: (padded 4 year.natAbs ++ rest)) =
      sign :: (padded 4 year.natAbs ++ rest) := by
    refine Text.trimStart_eq_self ?_
    rintro _ ⟨⟩
    exact hblank
  rw [htext, List.cons_append, scanYear, htrim]
  rcases hsign with ⟨rfl, hneg⟩ | ⟨rfl, hpos⟩
  · have hnat : -(year.natAbs : ℤ) = year := by omega
    show (scanNumber (padded 4 year.natAbs ++ rest).length (padded 4 year.natAbs ++ rest)).map
      (fun r => (-(r.1 : ℤ), r.2)) = some (year, rest)
    rw [hdigits, Option.map_some, hnat]
  · have hnat : (year.natAbs : ℤ) = year := Int.natAbs_of_nonneg hpos
    show (scanNumber (padded 4 year.natAbs ++ rest).length (padded 4 year.natAbs ++ rest)).map
      (fun r => ((r.1 : ℤ), r.2)) = some (year, rest)
    rw [hdigits, Option.map_some, hnat]

theorem scanYear_append {year : ℤ} {rest : Text} (h : EndsNumber rest) :
    scanYear (Date.yearText year ++ rest) = some (year, rest) := by
  by_cases hyear : IsPlainYear year
  · exact scanYear_plain hyear h
  · exact scanYear_signed hyear h

theorem month_lt (d : Date) : d.month < 100 := by
  have := d.valid.2.1.2
  omega

theorem day_lt (d : Date) : d.day < 100 := by
  have hday := d.valid.2.2.2
  rw [daysInMonth] at hday
  split_ifs at hday <;> omega

/-- A date is read from the front of a text that begins with it. -/
theorem scanDate_append (d : Date) {rest : Text} (h : EndsNumber rest) :
    scanDate (d.toText ++ rest) = some (d, rest) := by
  have hshape : d.toText ++ rest = Date.yearText d.year ++
      '-' :: (padded 2 d.month ++ '-' :: (padded 2 d.day ++ rest)) := by simp [Date.toText]
  have hparts : Date.ofParts? d.year d.month d.day = some d := dif_pos d.valid
  have hminus (t : Text) : EndsNumber ('-' :: t) := endsNumber_cons rfl t
  rw [hshape, scanDate, scanYear_append (hminus _)]
  simp [scanChar_self, scanShort_padded (month_lt d) (hminus _), scanShort_padded (day_lt d) h,
    hparts]

/-! ## Instants -/

/-- A time of the day as text, before what comes after it. -/
def clockText (hour minute second nano : ℕ) (rest : Text) : Text :=
  padded 2 hour ++ ':' :: (padded 2 minute ++ ':' :: (padded 2 second ++
    (Instant.fractionText nano ++ rest)))

section
variable {date : Date} {hour minute second nano : ℕ}

theorem endsNumber_fraction (n : ℕ) {rest : Text} (h : EndsNumber rest) :
    EndsNumber (Instant.fractionText n ++ rest) := by
  rw [Instant.fractionText]
  split_ifs
  · exact h
  · exact endsNumber_cons rfl _
  · exact endsNumber_cons rfl _
  · exact endsNumber_cons rfl _

/-- With a year without a sign a date-time is read in the form of fixed width. -/
theorem readOffset?_plain (hyear : IsPlainYear date.year) (hhour : hour < 100)
    (hminute : minute < 100) (hsecond : second < 100) (hnano : nano < 1000000000) :
    readOffset? (date.toText ++ 'T' :: clockText hour minute second nano ['Z']) =
      (atTime? date hour minute second nano).bind (·.shift? 0) := by
  have hfour := natAbs_lt_of_isPlainYear hyear
  have hnat : (date.year.natAbs : ℤ) = date.year := Int.natAbs_of_nonneg hyear.1
  have htwo {n : ℕ} (hn : n < 100) (rest : Text) :
      scanDigits 2 (padded 2 n ++ rest) = some (n, rest) := scanDigits_padded (by decide) hn rest
  have hshape : date.toText ++ 'T' :: clockText hour minute second nano ['Z'] =
      padded 4 date.year.natAbs ++ '-' :: (padded 2 date.month ++
        '-' :: (padded 2 date.day ++ 'T' :: clockText hour minute second nano ['Z'])) := by
    rw [Date.toText, yearText_plain hyear]
    simp
  have hfraction : scanFraction (Instant.fractionText nano ++ ['Z']) = some (nano, ['Z']) :=
    scanFraction_append hnano (endsNumber_cons rfl []) (by simp)
  have hparts : Date.ofParts? (date.year.natAbs : ℕ) date.month date.day = some date := by
    rw [hnat]
    exact dif_pos date.valid
  have hoffset : (scanOffset ['Z']).bind complete = some 0 := rfl
  rw [hshape, clockText]
  refine (bind_eq_of_eq_some (scanDigits_padded (by decide) hfour _) _).trans ?_
  refine (bind_eq_of_eq_some (scanChar_self '-' _) _).trans ?_
  refine (bind_eq_of_eq_some (htwo (month_lt date) _) _).trans ?_
  refine (bind_eq_of_eq_some (scanChar_self '-' _) _).trans ?_
  refine (bind_eq_of_eq_some (htwo (day_lt date) _) _).trans ?_
  -- the mark before the time is looked at without a scanner
  refine (bind_eq_of_eq_some (htwo hhour _) _).trans ?_
  refine (bind_eq_of_eq_some (scanChar_self ':' _) _).trans ?_
  refine (bind_eq_of_eq_some (htwo hminute _) _).trans ?_
  refine (bind_eq_of_eq_some (scanChar_self ':' _) _).trans ?_
  refine (bind_eq_of_eq_some (htwo hsecond _) _).trans ?_
  refine (bind_eq_of_eq_some hfraction _).trans ?_
  refine (bind_eq_of_eq_some hoffset _).trans ?_
  exact bind_eq_of_eq_some hparts _

/-- A year with a sign does not fit the form of fixed width. -/
theorem readOffset?_signed (hyear : ¬ IsPlainYear date.year) (rest : Text) :
    readOffset? (date.toText ++ rest) = none := by
  obtain ⟨sign, hsign, htext⟩ := yearText_signed hyear
  have hdigit : sign.isDigit = false := by
    rcases hsign with ⟨rfl, -⟩ | ⟨rfl, -⟩ <;> rfl
  have hshape : date.toText ++ rest = sign :: (padded 4 date.year.natAbs ++
      '-' :: (padded 2 date.month ++ '-' :: (padded 2 date.day ++ rest))) := by
    rw [Date.toText, htext]
    simp
  rw [hshape, readOffset?, scanDigits_eq_none hdigit (by decide)]
  rfl

/-- The mark of universal time ends no date-time without an offset. -/
theorem readPlain?_eq_none (hhour : hour < 100) (hminute : minute < 100) (hsecond : second < 100)
    (hnano : nano < 1000000000) :
    readPlain? (scanChar 'T') (date.toText ++ 'T' :: clockText hour minute second nano ['Z']) =
      none := by
  have hcolon (t : Text) : EndsNumber (':' :: t) := endsNumber_cons rfl t
  have hz : EndsNumber ['Z'] := endsNumber_cons rfl []
  have hfraction : scanFraction (Instant.fractionText nano ++ ['Z']) = some (nano, ['Z']) :=
    scanFraction_append hnano hz (by simp)
  rw [readPlain?, scanDate_append date (endsNumber_cons rfl _), clockText]
  simp [scanChar_self, scanShort_padded hhour (hcolon _), scanShort_padded hminute (hcolon _),
    scanShort_padded hsecond (endsNumber_fraction nano hz), hfraction, complete]

/-- A mark stands before the time, and not blanks only. -/
theorem readPlain?_trimStart_eq_none (rest : Text) :
    readPlain? (some ∘ Text.trimStart) (date.toText ++ 'T' :: rest) = none := by
  have htrim : Text.trimStart ('T' :: rest) = 'T' :: rest :=
    Text.trimStart_eq_self (by rintro _ ⟨⟩; decide)
  have hshort : scanShort ('T' :: rest) = none := by
    rw [scanShort, htrim]
    exact scanNumber_eq_none rfl
  rw [readPlain?, scanDate_append date (endsNumber_cons rfl _)]
  simp [htrim, hshort]

end

variable (i : Instant)

theorem toText_eq : i.toText = i.date.toText ++ 'T' :: clockText (i.second / 3600)
    (i.second / 60 % 60) (i.second % 60 + i.nano / 1000000000) (i.nano % 1000000000) ['Z'] := by
  simp [Instant.toText, Instant.timeText, clockText]

theorem hour_lt : i.second / 3600 < 24 := by
  have := i.valid.1
  omega

theorem minute_lt : i.second / 60 % 60 < 60 := Nat.mod_lt _ (by norm_num)

theorem leap_le : i.second % 60 + i.nano / 1000000000 ≤ 60 := by
  have := i.valid.2
  omega

/-- The parts of a time that a clock shows make up the time, leap seconds included. -/
theorem atTime?_parts (h : i.IsClocked) :
    atTime? i.date (i.second / 3600) (i.second / 60 % 60)
      (i.second % 60 + i.nano / 1000000000) (i.nano % 1000000000) = some i := by
  have hself : Instant.ofParts? i.date i.second i.nano = some i := dif_pos i.valid
  obtain ⟨hsecond, hnano⟩ := i.valid
  rw [Instant.IsClocked] at h
  rw [atTime?, if_pos ⟨hour_lt i, minute_lt i, leap_le i⟩]
  by_cases hsixty : i.second % 60 + i.nano / 1000000000 = 60
  · have hs : 3600 * (i.second / 3600) + 60 * (i.second / 60 % 60) + 59 = i.second := by omega
    have hn : i.nano % 1000000000 + 1000000000 = i.nano := by omega
    rw [if_pos hsixty, hs, hn, hself]
  · have hs : 3600 * (i.second / 3600) + 60 * (i.second / 60 % 60) +
        (i.second % 60 + i.nano / 1000000000) = i.second := by omega
    have hn : i.nano % 1000000000 = i.nano := by omega
    rw [if_neg hsixty, hs, hn, hself]

theorem shift?_zero : i.shift? 0 = some i := by
  have hsecond := i.valid.1
  have hself : Instant.ofParts? i.date i.second i.nano = some i := dif_pos i.valid
  unfold Instant.shift?
  simp only [mul_zero, add_zero]
  rw [if_neg (by omega), if_pos (by exact_mod_cast hsecond), Int.toNat_natCast, hself]

end Calendar

/-- Every date is read from its text. -/
theorem Date.read?_toText (d : Date) : Date.read? d.toText = some d := by
  have hend : Calendar.EndsNumber [] := fun _ h => (nomatch h)
  have h := Calendar.scanDate_append d hend
  rw [List.append_nil] at h
  rw [Date.read?, h]
  rfl

namespace Instant

theorem read?_toText_of_isClocked {i : Instant} (hi : i.IsClocked) :
    Instant.read? i.toText = if Calendar.IsPlainYear i.date.year then some i else none := by
  have hhour : i.second / 3600 < 100 := (Calendar.hour_lt i).trans (by norm_num)
  have hminute : i.second / 60 % 60 < 100 := (Calendar.minute_lt i).trans (by norm_num)
  have hsecond : i.second % 60 + i.nano / 1000000000 < 100 :=
    (Calendar.leap_le i).trans_lt (by norm_num)
  have hnano : i.nano % 1000000000 < 1000000000 := Nat.mod_lt _ (by norm_num)
  rw [Instant.read?, Calendar.toText_eq,
    Calendar.readPlain?_eq_none hhour hminute hsecond hnano,
    Calendar.readPlain?_trimStart_eq_none]
  split
  · rename_i h
    rw [Calendar.readOffset?_plain h hhour hminute hsecond hnano, Calendar.atTime?_parts i hi,
      Option.bind_some, Calendar.shift?_zero]
    rfl
  · rename_i h
    rw [Calendar.readOffset?_signed h]
    rfl

/-- The text of an instant is read as what a clock shows, exactly when its year is written without
    a sign. -/
theorem read?_toText (i : Instant) :
    Instant.read? i.toText = if Calendar.IsPlainYear i.date.year then some i.shown else none := by
  rw [← toText_shown, read?_toText_of_isClocked i.isClocked_shown, date_shown]

end Instant

end ResourceQuery
