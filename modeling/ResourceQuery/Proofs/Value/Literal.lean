/-
  Resource queries — literals read back.

  * `Calendar.hasOnly_date`, `Calendar.hasOnly_instant`: the marks that stand beside digits in a
    date and in a date-time.
  * `infer_of_integer`, `infer_of_date`, `infer_of_colon`: what a text of one form denotes, as no
    reader of another form takes it.
  * `Value.HasPlainYear`, `Value.IsClocked`: the values other than instants in a year with a sign,
    and other than instants whose time no clock shows.
  * `Value.reread`: the value that the literal of a value denotes: the same number with the
    digits that the literal shows, the instant that a clock shows, and the text itself for an
    instant in a year with a sign.
  * `infer_literal`, `literal_reread`: a literal denotes the reread value, whose literal is the
    same again.
  * `Literal.rereadAs_ofValue`: a value that is no float is rendered as a token of the reread
    value, with no text beside it.
-/
import ResourceQuery.Proofs.Query.RoundTrip
import ResourceQuery.Proofs.Value.Forms

namespace ResourceQuery

open Numeral Token

/-! ## Words -/

namespace Text

/-- Digits and marks that do not end words make up words. -/
theorem HasOnly.isWord {marks t : Text} (h : HasOnly marks t) (hne : t ≠ [])
    (hmarks : marks.all Lexeme.isWordChar) : Lexeme.IsWord t := by
  refine ⟨hne, ?_⟩
  intro c hc
  rcases h c hc with hdigit | hmark
  · exact Lexeme.isWordChar_of_isDigit hdigit
  · exact List.all_eq_true.1 hmarks c hmark

end Text

/-! ## Decimals -/

namespace Decimal

/-- A decimal is written with a point or an exponent. -/
theorem Notated.exists_mark {t : Text} {d : Decimal} (h : Notated t d) :
    ∃ mark ∈ t, mark = '.' ∨ isExponentMark mark := by
  cases h with
  | point => exact ⟨'.', by simp, .inl rfl⟩
  | @exponent _ _ _ mark _ _ _ hmark => exact ⟨mark, by simp, .inr hmark⟩
  | pointExponent => exact ⟨'.', by simp, .inl rfl⟩

end Decimal

/-! ## Dates and instants -/

namespace Calendar

variable {marks : Text}

theorem hasOnly_padded (width n : ℕ) : Text.HasOnly marks (padded width n) :=
  Text.hasOnly_of_digits fun _ h => isDigit_of_mem_padded h

theorem hasOnly_yearText (year : ℤ) : Text.HasOnly ['-', '+'] (Date.yearText year) := by
  by_cases h : IsPlainYear year
  · rw [yearText_plain h]
    exact hasOnly_padded 4 _
  · obtain ⟨sign, hsign, htext⟩ := yearText_signed h
    rw [htext]
    refine .cons ?_ (hasOnly_padded 4 _)
    rcases hsign with ⟨rfl, -⟩ | ⟨rfl, -⟩ <;> decide

theorem toText_date_eq (d : Date) : d.toText =
    Date.yearText d.year ++ '-' :: (padded 2 d.month ++ '-' :: padded 2 d.day) := by
  simp [Date.toText]

theorem hasOnly_date (d : Date) : Text.HasOnly ['-', '+'] d.toText := by
  rw [toText_date_eq]
  exact (hasOnly_yearText _).append (.cons (by decide)
    ((hasOnly_padded 2 _).append (.cons (by decide) (hasOnly_padded 2 _))))

theorem hasOnly_fractionText (n : ℕ) : Text.HasOnly ['.'] (Instant.fractionText n) := by
  rw [Instant.fractionText]
  split_ifs
  · exact Text.hasOnly_nil
  · exact .cons (by decide) (hasOnly_padded 3 _)
  · exact .cons (by decide) (hasOnly_padded 6 _)
  · exact .cons (by decide) (hasOnly_padded 9 _)

theorem hasOnly_instant (i : Instant) :
    Text.HasOnly ['-', '+', 'T', ':', '.', 'Z'] i.toText := by
  rw [toText_eq, clockText]
  refine ((hasOnly_date i.date).mono (by simp)).append (.cons (by decide) ?_)
  refine (hasOnly_padded 2 _).append (.cons (by decide) ?_)
  refine (hasOnly_padded 2 _).append (.cons (by decide) ?_)
  refine (hasOnly_padded 2 _).append (((hasOnly_fractionText _).mono (by simp)).append ?_)
  exact .cons (by decide) Text.hasOnly_nil

end Calendar

/-! ## Values -/

namespace Value

/-- Whether a value is no instant in a year with a sign. -/
def HasPlainYear : Value → Prop
  | dateTime i => Calendar.IsPlainYear i.date.year
  | _ => True

/-- Whether a value is no instant but one whose time a clock shows. -/
def IsClocked : Value → Prop
  | dateTime i => i.IsClocked
  | _ => True

instance : DecidablePred HasPlainYear
  | dateTime i => inferInstanceAs (Decidable (Calendar.IsPlainYear i.date.year))
  | string _ | integer _ | float _ | decimal _ | boolean _ | date _ => isTrue trivial

instance : DecidablePred IsClocked
  | dateTime i => inferInstanceAs (Decidable i.IsClocked)
  | string _ | integer _ | float _ | decimal _ | boolean _ | date _ => isTrue trivial

/-- A value with the time that a clock shows. -/
def shown : Value → Value
  | dateTime i => dateTime i.shown
  | v => v

theorem shown_eq_self_iff {v : Value} : v.shown = v ↔ v.IsClocked := by
  cases v with
  | dateTime i => rw [shown, dateTime.injEq, Instant.shown_eq_self_iff, IsClocked]
  | _ => exact iff_of_true rfl trivial

@[simp] theorem dataType_shown (v : Value) : v.shown.dataType = v.dataType := by
  cases v <;> rfl

/-- The value that the literal of a value denotes without quotes. -/
def reread : Value → Value
  | decimal d => decimal d.reread
  | dateTime i => if Calendar.IsPlainYear i.date.year then dateTime i.shown else string i.toText
  | v => v

/-- Rereading a value changes no literal. -/
theorem literal_reread (v : Value) : v.reread.literal = v.literal := by
  cases v with
  | decimal d => exact d.literal_reread
  | dateTime i =>
    rw [reread]
    split
    · exact i.toText_shown
    · rfl
  | _ => rfl

variable {t : Text}

theorem infer_boolean (b : Bool) : infer (booleanText b) = boolean b := by
  cases b <;> rfl

/-- An integer has the form of a decimal, and so no other. -/
theorem infer_of_integer {i : Int64} (h : Numeral.readInt64? t = some i) :
    infer t = integer i := by
  have hform : HasForm t .decimal := .decimal (Decimal.read?_of_readInt64? h)
  simp [infer, inferTyped?, hform.boolean_eq_none (by simp), h]

theorem infer_of_decimal {d : Decimal} (hi : Numeral.readInt64? t = none)
    (hlooks : looksDecimal t) (h : Decimal.read? t = some d) : infer t = decimal d := by
  have hform : HasForm t .decimal := .decimal h
  simp [infer, inferTyped?, hform.boolean_eq_none (by simp), hi, readDecimal?, hlooks, h]

theorem infer_of_date {d : Date} (h : Date.read? t = some d) : infer t = date d := by
  have hform : HasForm t .date := .date h
  simp [infer, inferTyped?, hform.boolean_eq_none (by simp),
    hform.integer_eq_none (by simp), readDecimal?, hform.decimal_eq_none (by simp), h]

/-- A text with a colon is a date-time or a string. -/
theorem infer_of_colon (h : ':' ∈ t) :
    infer t = ((Instant.read? t).map dateTime).getD (string t) := by
  have hform : HasForm t .dateTime := .dateTime h
  simp [infer, inferTyped?, hform.boolean_eq_none (by simp),
    hform.integer_eq_none (by simp), readDecimal?, hform.decimal_eq_none (by simp),
    hform.date_eq_none (by simp)]

theorem infer_decimal (d : Decimal) : infer (decimal d).literal = decimal d.reread := by
  have hread := d.notated_literal.read?_eq
  obtain ⟨mark, hmem, hmark⟩ := d.notated_literal.exists_mark
  obtain ⟨c, hc, hdigit⟩ := Decimal.exists_digit_of_read? hread
  have hmarks : mark ∉ ['-', '+'] ∧ mark.isDigit = false ∧
      (mark == '.' || mark == 'e' || mark == 'E') := by
    rw [Decimal.isExponentMark, Bool.or_eq_true, beq_iff_eq, beq_iff_eq] at hmark
    rcases hmark with rfl | rfl | rfl <;> decide
  obtain ⟨hsign, hnodigit, hlooks⟩ := hmarks
  refine infer_of_decimal ?_ ?_ hread
  · rw [Option.eq_none_iff_forall_ne_some]
    intro i hi
    obtain ⟨j, hj, -⟩ := Option.bind_eq_some_iff.1 hi
    exact (Numeral.hasOnly_of_readInt? hj).not_mem hnodigit hsign hmem
  · rw [looksDecimal, Bool.and_eq_true, List.any_eq_true, List.any_eq_true]
    exact ⟨⟨mark, hmem, hlooks⟩, c, hc, hdigit⟩

theorem infer_dateTime (i : Instant) : infer (dateTime i).literal = (dateTime i).reread := by
  have hinfer := infer_of_colon i.colon_mem_toText
  rw [i.read?_toText] at hinfer
  rw [reread]
  refine hinfer.trans ?_
  split <;> rfl

/-- A literal denotes the reread value. -/
theorem infer_literal {v : Value} (hf : v.dataType ≠ .float) (hs : v.dataType ≠ .string) :
    infer v.literal = v.reread := by
  cases v with
  | string t => exact absurd rfl hs
  | integer i => exact infer_of_integer (Numeral.readInt64?_ofInt i)
  | float x => exact absurd rfl hf
  | decimal d => exact infer_decimal d
  | boolean b => exact infer_boolean b
  | dateTime i => exact infer_dateTime i
  | date d => exact infer_of_date d.read?_toText

theorem isWord_booleanText (b : Bool) : Lexeme.IsWord (booleanText b) := by
  cases b
  · exact ⟨List.cons_ne_nil _ _, List.all_eq_true.1 (by decide)⟩
  · exact ⟨List.cons_ne_nil _ _, List.all_eq_true.1 (by decide)⟩

/-- Literals stand without quotes. -/
theorem isWord_literal {v : Value} (hf : v.dataType ≠ .float) (hs : v.dataType ≠ .string) :
    Lexeme.IsWord v.literal := by
  cases v with
  | string t => exact absurd rfl hs
  | float x => exact absurd rfl hf
  | boolean b => exact isWord_booleanText b
  | integer i =>
    have hread := Numeral.readInt?_ofInt i.toInt
    obtain ⟨c, hc, -⟩ :=
      Decimal.exists_digit_of_read? (Decimal.read?_of_readInt64? (Numeral.readInt64?_ofInt i))
    exact (Numeral.hasOnly_of_readInt? hread).isWord (List.ne_nil_of_mem hc) (by decide)
  | decimal d =>
    have hread := d.notated_literal.read?_eq
    obtain ⟨c, hc, -⟩ := Decimal.exists_digit_of_read? hread
    exact (Decimal.hasOnly_of_read? hread).isWord (List.ne_nil_of_mem hc) (by decide)
  | dateTime i =>
    exact (Calendar.hasOnly_instant i).isWord (List.ne_nil_of_mem i.colon_mem_toText) (by decide)
  | date d =>
    obtain ⟨c, hc, -⟩ := Date.exists_digit_of_read? d.read?_toText
    exact (Calendar.hasOnly_date d).isWord (List.ne_nil_of_mem hc) (by decide)

end Value

/-- A value is rendered as a token of what it is reread as. -/
theorem Literal.rereadAs_ofValue {v : Value} (hf : v.dataType ≠ .float) :
    (ofValue v).RereadAs (ofValue v.reread) := by
  by_cases hs : v.dataType = .string
  · cases v <;> cases hs
    exact rereadAs_ofQuoted _
  · have hinfer := Value.infer_literal hf hs
    have hword : ofWord v.literal = ofValue v.reread := by
      simp [ofWord, ofValue, hinfer, Value.literal_reread]
    have hrender : (ofValue v).render = v.literal := by
      cases v <;> first | rfl | exact absurd rfl hs
    refine ⟨.bare v.literal, hword ▸ .bare v.literal, ?_⟩
    rw [hrender]
    exact spells_word (Value.isWord_literal hf hs)

end ResourceQuery
