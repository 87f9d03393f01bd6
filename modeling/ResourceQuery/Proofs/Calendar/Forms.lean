/-
  Resource queries — the forms of dates and instants.

  * `Text.EndsVisible`: a text ends in a character that is no blank, so trimming takes blanks from
    its front only.
  * `Calendar.Leaves`: what a scanner leaves of a text after numbers.
  * `Date.isDateChar_of_read?`, `Date.exists_hyphen_of_read?`: a date is digits, blanks and signs,
    with a hyphen after its year.
  * `Instant.shape_of_read?`: an instant has a colon and ends in a visible character.
  * `Calendar.readPlain?_of_readOffset?`: no text is a date-time both with an offset and without.
  * `Date.read?_trim`, `Instant.read?_trim`: what is read with the blanks around it is read without
    them.
-/
import Mathlib.Data.List.DropRight
import Mathlib.Data.List.Infix
import ResourceQuery.Proofs.Calendar.Text

namespace ResourceQuery

/-! ## Ends of texts -/

namespace Text

variable {s t : Text}

/-- Whether a text ends in a character that is no blank. -/
def EndsVisible (t : Text) : Prop := ∃ front c, t = front ++ [c] ∧ ¬ isBlank c

theorem EndsVisible.of_suffix (h : EndsVisible s) (hs : s <:+ t) : EndsVisible t := by
  obtain ⟨front, c, rfl, hc⟩ := h
  obtain ⟨more, rfl⟩ := hs
  exact ⟨more ++ front, c, by rw [List.append_assoc], hc⟩

theorem endsVisible_of_digits (hne : t ≠ []) (h : ∀ c ∈ t, c.isDigit) : EndsVisible t := by
  refine ⟨t.dropLast, t.getLast hne, (List.dropLast_concat_getLast hne).symm, ?_⟩
  exact not_isBlank_of_isDigit (h _ (List.getLast_mem hne))

/-- Of a text with a visible end only leading blanks are trimmed. -/
theorem EndsVisible.trim_eq (h : EndsVisible t) : trim t = trimStart t := by
  obtain ⟨front, c, rfl, hc⟩ := h
  have hstart : trimStart (front ++ [c]) = trimStart front ++ [c] := by
    rw [trimStart, List.dropWhile_append, List.dropWhile_cons_of_neg hc]
    split
    · rename_i hempty
      rw [trimStart, List.isEmpty_iff.1 hempty, List.nil_append]
    · rfl
  rw [trim, hstart, trimEnd, List.reverse_append, List.reverse_singleton, List.singleton_append,
    List.dropWhile_cons_of_neg hc]
  simp

theorem trimStart_trimStart (t : Text) : trimStart (trimStart t) = trimStart t :=
  List.dropWhile_idempotent _ _

end Text

namespace Calendar

open Text

variable {t rest : Text}

/-! ## What scanners leave -/

/-- A character that may stand in a date. -/
def IsDateChar (c : Char) : Prop := c.isDigit ∨ isBlank c ∨ c ∈ ['-', '+']

instance : DecidablePred IsDateChar := fun _ => inferInstanceAs (Decidable (_ ∨ _))

/-- Whether `rest` is left of a text after characters of dates, the last of which is a digit. -/
def Leaves (t rest : Text) : Prop :=
  ∃ front c, t = front ++ c :: rest ∧ c.isDigit ∧ ∀ d ∈ front, IsDateChar d

theorem Leaves.suffix (h : Leaves t rest) : rest <:+ t := by
  obtain ⟨front, c, rfl, -⟩ := h
  exact ⟨front ++ [c], by simp⟩

theorem Leaves.append {front : Text} (h : Leaves t rest) (hfront : ∀ d ∈ front, IsDateChar d) :
    Leaves (front ++ t) rest := by
  obtain ⟨more, c, rfl, hc, hmore⟩ := h
  exact ⟨front ++ more, c, by rw [List.append_assoc], hc, List.forall_mem_append.2 ⟨hfront, hmore⟩⟩

/-- Between two numbers of a date stands a hyphen. -/
theorem Leaves.trans {middle : Text} (h : Leaves t ('-' :: middle)) (h' : Leaves middle rest) :
    Leaves t rest := by
  obtain ⟨front, c, rfl, hc, hfront⟩ := h
  have hnumber : ∀ d ∈ front ++ [c, '-'], IsDateChar d := by
    rw [List.forall_mem_append]
    refine ⟨hfront, ?_⟩
    simp only [List.mem_cons, List.not_mem_nil, or_false]
    rintro d (rfl | rfl)
    · exact .inl hc
    · exact .inr (.inr (by decide))
  have hleaves := h'.append hnumber
  rwa [List.append_assoc] at hleaves

theorem leaves_of_digits {ds : Text} (hne : ds ≠ []) (hds : ∀ c ∈ ds, c.isDigit) (rest : Text) :
    Leaves (ds ++ rest) rest := by
  refine ⟨ds.dropLast, ds.getLast hne, ?_, hds _ (List.getLast_mem hne),
    fun c hc => .inl (hds c (List.mem_of_mem_dropLast hc))⟩
  rw [List.append_cons, List.dropLast_concat_getLast hne]

theorem leaves_of_scanNumber {most n : ℕ} (h : scanNumber most t = some (n, rest)) :
    Leaves t rest := by
  simp only [scanNumber] at h
  split at h
  · cases h
  rename_i hne
  rw [List.isEmpty_iff] at hne
  obtain ⟨-, rfl⟩ := Prod.mk.inj (Option.some.inj h)
  set ds := (t.take most).takeWhile Char.isDigit
  have hfront : ds <+: t := (List.takeWhile_prefix _).trans (List.take_prefix _ _)
  have hleaves := leaves_of_digits hne (fun c hc => List.mem_takeWhile_imp hc) (t.drop ds.length)
  rwa [List.prefix_iff_eq_append.1 hfront] at hleaves

theorem leaves_of_trimStart (h : Leaves (trimStart t) rest) : Leaves t rest := by
  have hblanks : ∀ c ∈ t.takeWhile isBlank, IsDateChar c :=
    fun c hc => .inr (.inl (List.mem_takeWhile_imp hc))
  have hleaves := h.append hblanks
  rwa [trimStart, List.takeWhile_append_dropWhile] at hleaves

theorem leaves_of_scanShort {n : ℕ} (h : scanShort t = some (n, rest)) : Leaves t rest :=
  leaves_of_trimStart (leaves_of_scanNumber h)

theorem leaves_of_scanYear {year : ℤ} (h : scanYear t = some (year, rest)) : Leaves t rest := by
  have hnumber {most : ℕ} {s : Text} {f : ℕ × Text → ℤ × Text} (hf : ∀ r, (f r).2 = r.2)
      (h : (scanNumber most s).map f = some (year, rest)) : Leaves s rest := by
    obtain ⟨⟨n, left⟩, hscan, hr⟩ := Option.map_eq_some_iff.1 h
    obtain rfl : left = rest := (hf (n, left)).symm.trans (congrArg Prod.snd hr)
    exact leaves_of_scanNumber hscan
  have hsigned {sign : Char} {s : Text} (hsign : sign ∈ ['-', '+']) (h : Leaves s rest) :
      Leaves (sign :: s) rest := by
    have hfront : ∀ d ∈ [sign], IsDateChar d := by
      intro d hd
      rw [List.mem_singleton.1 hd]
      exact .inr (.inr hsign)
    exact h.append hfront
  refine leaves_of_trimStart ?_
  unfold scanYear at h
  split at h
  · rename_i s hs
    rw [hs]
    exact hsigned (by decide) (hnumber (fun _ => rfl) h)
  · rename_i s hs
    rw [hs]
    exact hsigned (by decide) (hnumber (fun _ => rfl) h)
  · exact hnumber (fun _ => rfl) h

theorem scanDate_trimStart (t : Text) : scanDate (trimStart t) = scanDate t := by
  rw [scanDate, scanDate, scanYear, scanYear, trimStart_trimStart]

theorem eq_cons_of_scanChar {c : Char} (h : scanChar c t = some rest) : t = c :: rest := by
  cases t with
  | nil => cases h
  | cons d t =>
    rw [scanChar] at h
    split at h
    · rename_i hd
      rw [hd, Option.some.inj h]
    · cases h

/-- A date leaves what comes after its day, and has a hyphen after its year. -/
theorem leaves_of_scanDate {d : Date} (h : scanDate t = some (d, rest)) :
    ∃ middle, Leaves t ('-' :: middle) ∧ Leaves middle rest := by
  simp only [scanDate, Option.bind_eq_bind, Option.bind_eq_some_iff, Prod.exists,
    Option.pure_def, Option.some.injEq, Prod.mk.injEq] at h
  obtain ⟨year, t₁, hyear, t₂, hhyphen, month, t₃, hmonth, t₄, hhyphen', day, t₅, hday, date,
    -, -, rfl⟩ := h
  rw [eq_cons_of_scanChar hhyphen] at hyear
  rw [eq_cons_of_scanChar hhyphen'] at hmonth
  exact ⟨t₂, leaves_of_scanYear hyear, (leaves_of_scanShort hmonth).trans (leaves_of_scanShort hday)⟩

theorem suffix_of_scanDigits {count n : ℕ} (h : scanDigits count t = some (n, rest)) :
    rest <:+ t := by
  simp only [scanDigits] at h
  split at h
  · obtain ⟨-, rfl⟩ := Prod.mk.inj (Option.some.inj h)
    exact List.drop_suffix _ _
  · cases h

/-- Exactly so many digits that are all of a text end it in a digit. -/
theorem endsVisible_of_scanDigits {count n : ℕ} (hcount : 0 < count)
    (h : scanDigits count t = some (n, [])) : EndsVisible t := by
  simp only [scanDigits] at h
  split at h
  · rename_i hall
    rw [Bool.and_eq_true, decide_eq_true_eq, List.all_eq_true] at hall
    obtain ⟨-, hdrop⟩ := Prod.mk.inj (Option.some.inj h)
    have htake : t.take count = t := List.take_of_length_le (List.drop_eq_nil_iff.1 hdrop)
    rw [htake] at hall
    refine endsVisible_of_digits ?_ hall.2
    rw [← List.length_pos_iff, hall.1]
    exact hcount
  · cases h

/-- A fraction that is all of a text ends it in a digit, when there is one. -/
theorem endsVisible_of_scanFraction {n : ℕ} (h : scanFraction t = some (n, [])) :
    t = [] ∨ EndsVisible t := by
  unfold scanFraction at h
  split at h
  · rename_i s
    dsimp only at h
    split at h
    · cases h
    rename_i hne
    obtain ⟨-, hdrop⟩ := Prod.mk.inj (Option.some.inj h)
    have hdigits : ∀ c ∈ s, c.isDigit := List.dropWhile_eq_nil_iff.1 hdrop
    have hs : s ≠ [] := by
      rintro rfl
      exact hne rfl
    exact .inr ((endsVisible_of_digits hs hdigits).of_suffix (List.suffix_cons _ _))
  · exact .inl (Prod.mk.inj (Option.some.inj h)).2

theorem suffix_of_scanFraction {n : ℕ} (h : scanFraction t = some (n, rest)) : rest <:+ t := by
  unfold scanFraction at h
  split at h
  · dsimp only at h
    split at h
    · cases h
    obtain ⟨-, rfl⟩ := Prod.mk.inj (Option.some.inj h)
    exact (List.dropWhile_suffix _).trans (List.suffix_cons _ _)
  · obtain ⟨-, rfl⟩ := Prod.mk.inj (Option.some.inj h)
    exact List.suffix_rfl

theorem endsVisible_of_scanOffset {minutes : ℤ} (h : scanOffset t = some (minutes, [])) :
    EndsVisible t := by
  unfold scanOffset at h
  split at h
  · obtain ⟨-, rfl⟩ := Prod.mk.inj (Option.some.inj h)
    exact ⟨[], 'Z', rfl, by decide⟩
  · obtain ⟨-, rfl⟩ := Prod.mk.inj (Option.some.inj h)
    exact ⟨[], 'z', rfl, by decide⟩
  · rename_i sign s _ _
    simp only [Option.bind_eq_bind, Option.bind_eq_some_iff, Prod.exists] at h
    obtain ⟨hours, s₁, hhours, s₂, hcolon, minute, s₃, hminute, h⟩ := h
    obtain rfl : s₃ = [] := by
      split_ifs at h
      · exact (Prod.mk.inj (Option.some.inj h)).2
      · exact (Prod.mk.inj (Option.some.inj h)).2
    rw [eq_cons_of_scanChar hcolon] at hhours
    have hsuffix : s₂ <:+ sign :: s :=
      ((List.suffix_cons _ _).trans (suffix_of_scanDigits hhours)).trans (List.suffix_cons _ _)
    exact (endsVisible_of_scanDigits (by decide) hminute).of_suffix hsuffix
  · cases h

theorem bind_complete_eq_some {α : Type} {x : Option (α × Text)} {a : α} :
    x.bind complete = some a ↔ x = some (a, []) := by
  rw [Option.bind_eq_some_iff]
  constructor
  · rintro ⟨⟨b, _ | ⟨c, s⟩⟩, rfl, h⟩
    · rw [← Option.some.inj h]
    · cases h
  · rintro rfl
    exact ⟨_, rfl, rfl⟩

/-! ## Forms of fixed width -/

/-- Digits of fixed width are numbers of at most this width. -/
theorem scanNumber_of_scanDigits {count n : ℕ} (hcount : 0 < count)
    (h : scanDigits count t = some (n, rest)) :
    scanNumber count t = some (n, rest) ∧ trimStart t = t ∧ t.head? ≠ some '-' ∧
      t.head? ≠ some '+' := by
  simp only [scanDigits] at h
  split at h
  · rename_i hall
    rw [Bool.and_eq_true, decide_eq_true_eq, List.all_eq_true] at hall
    obtain ⟨rfl, rfl⟩ := Prod.mk.inj (Option.some.inj h)
    have hne : t.take count ≠ [] := by
      rw [← List.length_pos_iff, hall.1]
      exact hcount
    have hhead := head_digits_append hne hall.2 (t.drop count)
    rw [List.take_append_drop] at hhead
    refine ⟨?_, hhead⟩
    have htake : (t.take count).takeWhile Char.isDigit = t.take count :=
      List.takeWhile_eq_self_iff.2 hall.2
    simp only [scanNumber, htake, hall.1, List.isEmpty_iff, hne, if_false]
  · cases h

theorem scanShort_of_scanDigits {n : ℕ} (h : scanDigits 2 t = some (n, rest)) :
    scanShort t = some (n, rest) := by
  obtain ⟨hnumber, htrim, -⟩ := scanNumber_of_scanDigits (by decide) h
  rw [scanShort, htrim, hnumber]

theorem scanYear_of_scanDigits {n : ℕ} (h : scanDigits 4 t = some (n, rest)) :
    scanYear t = some ((n : ℤ), rest) := by
  obtain ⟨hnumber, htrim, hminus, hplus⟩ := scanNumber_of_scanDigits (by decide) h
  unfold scanYear
  rw [htrim]
  split
  · exact absurd rfl hminus
  · exact absurd rfl hplus
  · rw [hnumber]
    rfl

variable {i : Instant}

/-- The parts of a date-time with an offset: its date is one in any form. -/
theorem exists_of_readOffset? (h : readOffset? t = some i) :
    ∃ date mark t₁ hour t₂ minute t₃ second t₄ nano t₅ minutes,
      trimStart t = t ∧ scanDate t = some (date, mark :: t₁) ∧
      (mark = 'T' ∨ mark = 't' ∨ mark = ' ') ∧ scanDigits 2 t₁ = some (hour, ':' :: t₂) ∧
      scanDigits 2 t₂ = some (minute, ':' :: t₃) ∧ scanDigits 2 t₃ = some (second, t₄) ∧
      scanFraction t₄ = some (nano, t₅) ∧ scanOffset t₅ = some (minutes, []) := by
  obtain ⟨⟨year, s₁⟩, hyear, h⟩ := Option.bind_eq_some_iff.1 h
  obtain ⟨s₂, hhyphen, h⟩ := Option.bind_eq_some_iff.1 h
  obtain ⟨⟨month, s₃⟩, hmonth, h⟩ := Option.bind_eq_some_iff.1 h
  obtain ⟨s₄, hhyphen', h⟩ := Option.bind_eq_some_iff.1 h
  obtain ⟨⟨day, s₅⟩, hday, h⟩ := Option.bind_eq_some_iff.1 h
  dsimp only at h
  split at h
  case h_2 => cases h
  rename_i mark t₁
  split at h
  case isFalse => cases h
  rename_i hmark
  obtain ⟨_, ht₁, h⟩ := Option.bind_eq_some_iff.1 h
  obtain rfl := Option.some.inj ht₁
  obtain ⟨⟨hour, s₆⟩, hhour, h⟩ := Option.bind_eq_some_iff.1 h
  obtain ⟨t₂, hcolon, h⟩ := Option.bind_eq_some_iff.1 h
  obtain ⟨⟨minute, s₇⟩, hminute, h⟩ := Option.bind_eq_some_iff.1 h
  obtain ⟨t₃, hcolon', h⟩ := Option.bind_eq_some_iff.1 h
  obtain ⟨⟨second, t₄⟩, hsecond, h⟩ := Option.bind_eq_some_iff.1 h
  obtain ⟨⟨nano, t₅⟩, hnano, h⟩ := Option.bind_eq_some_iff.1 h
  obtain ⟨minutes, hminutes, h⟩ := Option.bind_eq_some_iff.1 h
  obtain ⟨date, hdate, -⟩ := Option.bind_eq_some_iff.1 h
  refine ⟨date, mark, t₁, hour, t₂, minute, t₃, second, t₄, nano, t₅, minutes,
    (scanNumber_of_scanDigits (by decide) hyear).2.1, ?_, hmark, ?_, ?_, hsecond, hnano,
    bind_complete_eq_some.1 hminutes⟩
  · simp [scanDate, scanYear_of_scanDigits hyear, hhyphen, scanShort_of_scanDigits hmonth,
      hhyphen', scanShort_of_scanDigits hday, hdate]
  · rw [← eq_cons_of_scanChar hcolon, hhour]
  · rw [← eq_cons_of_scanChar hcolon', hminute]

/-- A date-time with an offset has a colon after its hours and ends in the offset. -/
theorem shape_of_readOffset? (h : readOffset? t = some i) : ':' ∈ t ∧ EndsVisible t := by
  obtain ⟨date, mark, t₁, hour, t₂, minute, t₃, second, t₄, nano, t₅, minutes, -, hdate, -, hhour,
    hminute, hsecond, hnano, hoffset⟩ := exists_of_readOffset? h
  obtain ⟨middle, hyear, hday⟩ := leaves_of_scanDate hdate
  have hhours : t₁ <:+ t := (List.suffix_cons _ _).trans (hyear.trans hday).suffix
  have hclock : ':' :: t₂ <:+ t := (suffix_of_scanDigits hhour).trans hhours
  have hminutes : ':' :: t₃ <:+ t :=
    (suffix_of_scanDigits hminute).trans ((List.suffix_cons _ _).trans hclock)
  have hfraction : t₄ <:+ t :=
    (suffix_of_scanDigits hsecond).trans ((List.suffix_cons _ _).trans hminutes)
  have hend : t₅ <:+ t := (suffix_of_scanFraction hnano).trans hfraction
  exact ⟨hclock.subset List.mem_cons_self, (endsVisible_of_scanOffset hoffset).of_suffix hend⟩

/-- The parts of a date-time without an offset. -/
theorem exists_of_readPlain? {between : Text → Option Text} (h : readPlain? between t = some i) :
    ∃ date t₁ t₂ hour t₃ minute t₄ second t₅ nano, scanDate t = some (date, t₁) ∧
      between t₁ = some t₂ ∧ scanShort t₂ = some (hour, ':' :: t₃) ∧
      scanShort t₃ = some (minute, ':' :: t₄) ∧ scanShort t₄ = some (second, t₅) ∧
      scanFraction t₅ = some (nano, []) := by
  obtain ⟨⟨date, t₁⟩, hdate, h⟩ := Option.bind_eq_some_iff.1 h
  obtain ⟨t₂, ht₂, h⟩ := Option.bind_eq_some_iff.1 h
  obtain ⟨⟨hour, s₃⟩, hhour, h⟩ := Option.bind_eq_some_iff.1 h
  obtain ⟨t₃, hcolon, h⟩ := Option.bind_eq_some_iff.1 h
  obtain ⟨⟨minute, s₄⟩, hminute, h⟩ := Option.bind_eq_some_iff.1 h
  obtain ⟨t₄, hcolon', h⟩ := Option.bind_eq_some_iff.1 h
  obtain ⟨⟨second, t₅⟩, hsecond, h⟩ := Option.bind_eq_some_iff.1 h
  obtain ⟨nano, hnano, -⟩ := Option.bind_eq_some_iff.1 h
  refine ⟨date, t₁, t₂, hour, t₃, minute, t₄, second, t₅, nano, hdate, ht₂, ?_, ?_, hsecond,
    bind_complete_eq_some.1 hnano⟩
  · rw [← eq_cons_of_scanChar hcolon, hhour]
  · rw [← eq_cons_of_scanChar hcolon', hminute]

/-- Blanks before a date-time without an offset make no difference. -/
theorem readPlain?_trimStart (between : Text → Option Text) (t : Text) :
    readPlain? between (trimStart t) = readPlain? between t := by
  rw [readPlain?, readPlain?, scanDate_trimStart]

/-- How the time may follow the date when there is no offset. -/
def IsBetween (between : Text → Option Text) : Prop :=
  between = scanChar 'T' ∨ between = some ∘ trimStart

theorem IsBetween.suffix {between : Text → Option Text} (hb : IsBetween between)
    (h : between t = some rest) : rest <:+ t := by
  rcases hb with rfl | rfl
  · rw [eq_cons_of_scanChar h]
    exact List.suffix_cons _ _
  · rw [← Option.some.inj h]
    exact List.dropWhile_suffix _

section

variable {between : Text → Option Text} (hb : IsBetween between)

include hb

/-- A date-time without an offset has a colon after its hours and ends in a digit. -/
theorem shape_of_readPlain? (h : readPlain? between t = some i) : ':' ∈ t ∧ EndsVisible t := by
  obtain ⟨date, t₁, t₂, hour, t₃, minute, t₄, second, t₅, nano, hdate, ht₂, hhour, hminute, hsecond,
    hnano⟩ := exists_of_readPlain? h
  obtain ⟨middle, hyear, hday⟩ := leaves_of_scanDate hdate
  have hhours : t₂ <:+ t := (hb.suffix ht₂).trans (hyear.trans hday).suffix
  have hclock : ':' :: t₃ <:+ t := (leaves_of_scanShort hhour).suffix.trans hhours
  have hminutes : ':' :: t₄ <:+ t :=
    (leaves_of_scanShort hminute).suffix.trans ((List.suffix_cons _ _).trans hclock)
  have hseconds : t₄ <:+ t := (List.suffix_cons _ _).trans hminutes
  refine ⟨hclock.subset List.mem_cons_self, ?_⟩
  have hleaves := leaves_of_scanShort hsecond
  rcases endsVisible_of_scanFraction hnano with rfl | hends
  · obtain ⟨front, c, rfl, hc, -⟩ := hleaves
    exact EndsVisible.of_suffix ⟨front, c, rfl, not_isBlank_of_isDigit hc⟩ hseconds
  · exact hends.of_suffix (hleaves.suffix.trans hseconds)

/-- No text is a date-time both with an offset and without one: read as the one and as the other,
    it has the same date and the same time, and then the offset left or nothing. -/
theorem readPlain?_of_readOffset? (h : readOffset? t = some i) : readPlain? between t = none := by
  rw [Option.eq_none_iff_forall_ne_some]
  intro j hj
  obtain ⟨date, mark, t₁, hour, t₂, minute, t₃, second, t₄, nano, t₅, minutes, -, hdate, hmark, hhour,
    hminute, hsecond, hnano, hoffset⟩ := exists_of_readOffset? h
  obtain ⟨date', s, t₁', hour', t₂', minute', t₃', second', t₄', nano', hdate', hs, hhour', hminute',
    hsecond', hnano'⟩ := exists_of_readPlain? hj
  obtain rfl : s = mark :: t₁ := by
    rw [hdate] at hdate'
    exact (Prod.mk.inj (Option.some.inj hdate')).2.symm
  -- after a letter no hours are read without it, and a blank is passed over
  obtain rfl : t₁' = t₁ := by
    have htrim : trimStart t₁ = t₁ := (scanNumber_of_scanDigits (by decide) hhour).2.1
    rcases hb with rfl | rfl
    · exact (List.cons.inj (eq_cons_of_scanChar hs)).2.symm
    · obtain rfl : trimStart (mark :: t₁) = t₁' := Option.some.inj hs
      rcases hmark with rfl | rfl | rfl
      · cases (scanNumber_eq_none rfl).symm.trans hhour'
      · cases (scanNumber_eq_none rfl).symm.trans hhour'
      · exact htrim
  rw [scanShort_of_scanDigits hhour] at hhour'
  obtain ⟨-, ht₂⟩ := Prod.mk.inj (Option.some.inj hhour')
  obtain rfl := (List.cons.inj ht₂).2
  rw [scanShort_of_scanDigits hminute] at hminute'
  obtain ⟨-, ht₃⟩ := Prod.mk.inj (Option.some.inj hminute')
  obtain rfl := (List.cons.inj ht₃).2
  rw [scanShort_of_scanDigits hsecond] at hsecond'
  obtain ⟨-, rfl⟩ := Prod.mk.inj (Option.some.inj hsecond')
  rw [hnano] at hnano'
  obtain ⟨-, rfl⟩ := Prod.mk.inj (Option.some.inj hnano')
  cases hoffset

end

end Calendar

/-! ## Dates and instants -/

variable {t : Text}

namespace Date

variable {d : Date}

theorem scanDate_of_read? (h : Date.read? t = some d) : Calendar.scanDate t = some (d, []) :=
  Calendar.bind_complete_eq_some.1 h

theorem isDateChar_of_read? (h : Date.read? t = some d) : ∀ c ∈ t, Calendar.IsDateChar c := by
  obtain ⟨middle, hyear, hday⟩ := Calendar.leaves_of_scanDate (scanDate_of_read? h)
  obtain ⟨front, c, rfl, hc, hfront⟩ := hyear.trans hday
  rw [List.forall_mem_append, List.forall_mem_singleton]
  exact ⟨hfront, .inl hc⟩

/-- After the year of a date stands a hyphen, which is no sign. -/
theorem exists_hyphen_of_read? (h : Date.read? t = some d) :
    ∃ front rest, t = front ++ '-' :: rest ∧ front ≠ [] := by
  obtain ⟨middle, ⟨front, c, rfl, -⟩, -⟩ := Calendar.leaves_of_scanDate (scanDate_of_read? h)
  exact ⟨front ++ [c], middle, by simp, by simp⟩

theorem exists_digit_of_read? (h : Date.read? t = some d) : ∃ c ∈ t, c.isDigit := by
  obtain ⟨middle, ⟨front, c, rfl, hc, -⟩, -⟩ := Calendar.leaves_of_scanDate (scanDate_of_read? h)
  exact ⟨c, by simp, hc⟩

theorem endsVisible_of_read? (h : Date.read? t = some d) : Text.EndsVisible t := by
  obtain ⟨middle, hyear, hday⟩ := Calendar.leaves_of_scanDate (scanDate_of_read? h)
  obtain ⟨front, c, rfl, hc, -⟩ := hyear.trans hday
  exact ⟨front, c, rfl, not_isBlank_of_isDigit hc⟩

/-- A date read with the blanks around it is read without them. -/
theorem read?_trim (h : Date.read? t = some d) : Date.read? (Text.trim t) = some d := by
  rw [(endsVisible_of_read? h).trim_eq, Date.read?, Calendar.scanDate_trimStart]
  exact h

end Date

namespace Instant

variable {i : Instant}

theorem readOffset?_or_readPlain?_of_read? (h : Instant.read? t = some i) :
    Calendar.readOffset? t = some i ∨
      ∃ between, Calendar.IsBetween between ∧ Calendar.readPlain? between t = some i := by
  rcases (Option.orElse_eq_some _ _ _).1 h with h | ⟨-, h⟩
  · exact .inl h
  rcases (Option.orElse_eq_some _ _ _).1 h with h | ⟨-, h⟩
  · exact .inr ⟨_, .inl rfl, h⟩
  · exact .inr ⟨_, .inr rfl, h⟩

theorem shape_of_read? (h : Instant.read? t = some i) : ':' ∈ t ∧ Text.EndsVisible t := by
  rcases readOffset?_or_readPlain?_of_read? h with h | ⟨between, hb, h⟩
  · exact Calendar.shape_of_readOffset? h
  · exact Calendar.shape_of_readPlain? hb h

theorem colon_mem_toText (i : Instant) : ':' ∈ i.toText := by
  rw [Calendar.toText_eq, Calendar.clockText]
  simp

/-- An instant read with the blanks around it is read without them. -/
theorem read?_trim (h : Instant.read? t = some i) : Instant.read? (Text.trim t) = some i := by
  rw [(shape_of_read? h).2.trim_eq]
  cases hoffset : Calendar.readOffset? t with
  | some j =>
    -- the form with an offset has no blanks before it
    obtain ⟨-, -, -, -, -, -, -, -, -, -, -, -, htrim, -⟩ := Calendar.exists_of_readOffset? hoffset
    rw [htrim]
    exact h
  | none =>
    rcases readOffset?_or_readPlain?_of_read? h with hsome | ⟨between, hb, hplain⟩
    · cases hoffset.symm.trans hsome
    have hnone : Calendar.readOffset? (Text.trimStart t) = none := by
      rw [Option.eq_none_iff_forall_ne_some]
      intro j hj
      have hno := Calendar.readPlain?_of_readOffset? hb hj
      rw [Calendar.readPlain?_trimStart, hplain] at hno
      cases hno
    rw [Instant.read?, hoffset] at h
    rw [Instant.read?, hnone, Calendar.readPlain?_trimStart, Calendar.readPlain?_trimStart]
    exact h

end Instant

end ResourceQuery
