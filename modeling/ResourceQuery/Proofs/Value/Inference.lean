/-
  Resource queries — literals read at the type of a property.

  * `Value.Infers`: the value that an unquoted literal denotes, with the readers that took it and
    the one that came close before.
  * `coerce?_eq_parseAs?`: a value inferred from a text converts to what the text is read as,
    unless it is a decimal that is converted to an integer.
  * `coerce?_infer`: so inference never changes what a typed property reads, and adds to it only
    the integers that decimals denote.
-/
import ResourceQuery.Proofs.Value.Equal

namespace ResourceQuery.Value

variable {w : Text} {v : Value}

/-- The value that is inferred from a text, and what it is read as. -/
inductive Infers (w : Text) : Value → Prop
  | boolean {b : Bool} : readBoolean? w = some b → Infers w (.boolean b)
  | integer {i : Int64} : Numeral.readInt64? w = some i → Infers w (.integer i)
  | decimal {d : Decimal} : Numeral.readInt64? w = none → Decimal.read? w = some d →
      Infers w (.decimal d)
  | date {d : Date} : Date.read? w = some d → Infers w (.date d)
  | dateTime {i : Instant} : Instant.read? w = some i → Infers w (.dateTime i)
  | string : Infers w (.string w)

theorem infers_infer (w : Text) : Infers w (infer w) := by
  rw [infer, inferTyped?]
  cases hboolean : readBoolean? w with
  | some b => exact .boolean hboolean
  | none =>
  cases hinteger : Numeral.readInt64? w with
  | some i => exact .integer hinteger
  | none =>
  cases hdecimal : readDecimal? w with
  | some d =>
    rw [readDecimal?] at hdecimal
    split at hdecimal
    · exact .decimal hinteger hdecimal
    · cases hdecimal
  | none =>
  cases hdate : Date.read? w with
  | some d => exact .date hdate
  | none =>
  cases hinstant : Instant.read? w with
  | some i => exact .dateTime hinstant
  | none => exact .string

/-- The form that the texts of a type have. -/
def form : DataType → DataType
  | .integer => .decimal
  | t => t

theorem hasForm_literal_dateTime (i : Instant) :
    HasForm (Text.trim (dateTime i).literal) .dateTime := by
  rw [literal, (Calendar.hasOnly_instant i).trim_eq (by simp [Text.isBlank])]
  exact .dateTime i.colon_mem_toText

/-- A text has the form of the value that is inferred from it, and so has the literal of this
    value. -/
theorem Infers.hasForm (h : Infers w v) (hs : v.dataType ≠ .string) :
    HasForm (Text.trim w) (form v.dataType) ∧ HasForm (Text.trim v.literal) (form v.dataType) := by
  cases h with
  | string => exact absurd rfl hs
  | @boolean b hb =>
    have hliteral : readBoolean? (booleanText b) = some b := by cases b <;> rfl
    rw [trim_of_readBoolean? hb, literal, trim_of_readBoolean? hliteral]
    exact ⟨.boolean hb, .boolean hliteral⟩
  | @integer i hi =>
    have hdecimal := Decimal.read?_of_readInt64? hi
    have hliteral := Decimal.read?_of_readInt64? (Numeral.readInt64?_ofInt i)
    rw [Decimal.trim_of_read? hdecimal, literal, Decimal.trim_of_read? hliteral]
    exact ⟨.decimal hdecimal, .decimal hliteral⟩
  | @decimal d _ hd =>
    rw [Decimal.trim_of_read? hd]
    exact ⟨.decimal hd, hasForm_literal_decimal d⟩
  | @date d hd => exact ⟨.date (Date.read?_trim hd), .date (Date.read?_trim d.read?_toText)⟩
  | @dateTime i hi =>
    exact ⟨.dateTime (Instant.shape_of_read? (Instant.read?_trim hi)).1, hasForm_literal_dateTime i⟩

/-! ## Readings of a text of a known form -/

theorem parseAs?_of_boolean {b : Bool} (h : readBoolean? w = some b) :
    parseAs? w .boolean = some (boolean b) := by
  rw [parseAs?, trim_of_readBoolean? h, h]
  rfl

theorem parseAs?_of_decimal {d : Decimal} (h : Decimal.read? w = some d) :
    parseAs? w .decimal = some (decimal d) ∧
      parseAs? w .integer = (Numeral.readInt64? w).map integer := by
  rw [parseAs?, parseAs?, Decimal.trim_of_read? h, h]
  exact ⟨rfl, rfl⟩

/-- A date has no colon, so it is read as a day first, also where an instant is asked for. -/
theorem parseAs?_of_date {d : Date} (h : Date.read? w = some d) :
    parseAs? w .date = some (date d) ∧ parseAs? w .dateTime = some (dateTime (.midnight d)) := by
  have htrim := Date.read?_trim h
  have hform : HasForm (Text.trim w) .date := .date htrim
  rw [parseAs?, parseAs?, htrim, hform.dateTime_eq_none (by simp)]
  exact ⟨rfl, rfl⟩

theorem parseAs?_of_dateTime {i : Instant} (h : Instant.read? w = some i) :
    parseAs? w .dateTime = some (dateTime i) ∧ parseAs? w .date = i.date?.map date := by
  have htrim := Instant.read?_trim h
  have hform : HasForm (Text.trim w) .dateTime := .dateTime (Instant.shape_of_read? htrim).1
  rw [parseAs?, parseAs?, htrim, hform.date_eq_none (by simp)]
  exact ⟨rfl, rfl⟩

/-! ## Conversions -/

variable {t : DataType}

/-- A value is converted through its literal to the types that its form does not serve. -/
theorem coerce?_eq_parseAs?_literal (hk : ¬ Serves (form v.dataType) t) :
    v.coerce? t = parseAs? v.literal t := by
  cases v <;> cases t <;> first | rfl | exact absurd (by simp [Serves, form, dataType]) hk

/-- A value inferred from a text converts to what the text is read as, unless it is a decimal that
    is converted to an integer. -/
theorem Infers.coerce?_eq_parseAs? (h : Infers w v) (ht : t ≠ .string ∧ t ≠ .float)
    (hd : t = .integer → v.dataType ≠ .decimal) : v.coerce? t = parseAs? w t := by
  obtain ⟨hstring, hfloat⟩ := ht
  by_cases hs : v.dataType = .string
  · cases h with
    | string => cases t <;> rfl
    | _ => cases hs
  by_cases hk : Serves (form v.dataType) t
  swap
  · -- the text and the literal have the same form, and neither is read as `t`
    obtain ⟨hform, hliteral⟩ := h.hasForm hs
    rw [coerce?_eq_parseAs?_literal hk, parseAs?_eq_none hform hk, parseAs?_eq_none hliteral hk]
  cases t with
  | string => exact absurd rfl hstring
  | float => exact absurd rfl hfloat
  | boolean =>
    cases h with
    | boolean hb => exact (parseAs?_of_boolean hb).symm
    | string => exact absurd rfl hs
    | _ => cases hk
  | integer =>
    cases h with
    | integer hi =>
      rw [(parseAs?_of_decimal (Decimal.read?_of_readInt64? hi)).2, hi]
      rfl
    | decimal => exact absurd rfl (hd rfl)
    | string => exact absurd rfl hs
    | _ => cases hk
  | decimal =>
    cases h with
    | integer hi => exact (parseAs?_of_decimal (Decimal.read?_of_readInt64? hi)).1.symm
    | decimal _ hdecimal => exact (parseAs?_of_decimal hdecimal).1.symm
    | string => exact absurd rfl hs
    | _ => cases hk
  | date =>
    cases h with
    | date hdate => exact (parseAs?_of_date hdate).1.symm
    | dateTime hi => exact (parseAs?_of_dateTime hi).2.symm
    | string => exact absurd rfl hs
    | _ => rcases hk with hk | hk <;> cases hk
  | dateTime =>
    cases h with
    | date hdate => exact (parseAs?_of_date hdate).2.symm
    | dateTime hi => exact (parseAs?_of_dateTime hi).1.symm
    | string => exact absurd rfl hs
    | _ => rcases hk with hk | hk <;> cases hk

/-- Inference never changes what a typed property reads, and adds to it only the integers of 64
    bits that decimals denote. -/
theorem coerce?_infer (w : Text)
    (ht : t ∈ [.integer, .decimal, .boolean, .dateTime, .date]) :
    (∀ v, parseAs? w t = some v → (infer w).coerce? t = some v) ∧
      (parseAs? w t = none → ∀ v, (infer w).coerce? t = some v ↔
        t = .integer ∧ ∃ (d : Decimal) (i : Int64),
          infer w = .decimal d ∧ d.number = i.toInt ∧ v = .integer i) := by
  have htype : t ≠ .string ∧ t ≠ .float := by
    constructor <;> (rintro rfl; simp at ht)
  by_cases hd : t = .integer ∧ (infer w).dataType = .decimal
  · obtain ⟨rfl, hdecimal⟩ := hd
    have hinfers := infers_infer w
    generalize infer w = u at hinfers hdecimal ⊢
    cases hinfers with
    | @decimal d hi hread =>
      have hparse : parseAs? w .integer = none := by
        rw [(parseAs?_of_decimal hread).2, hi]
        rfl
      refine ⟨fun v hv => ?_, fun _ v => ?_⟩
      · rw [hparse] at hv
        cases hv
      · show d.toInt64?.map integer = some v ↔ _
        constructor
        · intro hv
          obtain ⟨i, hi, rfl⟩ := Option.map_eq_some_iff.1 hv
          exact ⟨rfl, d, i, rfl, Decimal.toInt64?_eq_some.1 hi, rfl⟩
        · rintro ⟨-, d', i, hd', hnumber, rfl⟩
          obtain rfl := decimal.inj hd'
          rw [Decimal.toInt64?_eq_some.2 hnumber]
          rfl
    | _ => cases hdecimal
  · have heq : (infer w).coerce? t = parseAs? w t :=
      (infers_infer w).coerce?_eq_parseAs? htype fun hi hdecimal => hd ⟨hi, hdecimal⟩
    rw [heq]
    refine ⟨fun v hv => hv, fun hnone v => ?_⟩
    rw [hnone]
    constructor
    · intro hv
      cases hv
    · rintro ⟨rfl, d, i, hinfer, -⟩
      rw [hinfer] at hd
      exact absurd ⟨rfl, rfl⟩ hd

/-- A day written short is the instant it begins at, and an integer may have an exponent. -/
theorem coerce?_infer_short :
    (infer "2024-1-5".toList).coerce? .dateTime =
        some (dateTime (.midnight ⟨2024, 1, 5, by decide⟩)) ∧
      (infer "1e3".toList).coerce? .integer = some (integer 1000) := by
  have hday := coerce?_infer "2024-1-5".toList (t := .dateTime) (by simp)
  have hexponent := coerce?_infer "1e3".toList (t := .integer) (by simp)
  have hnumber : Decimal.number ⟨1, -3⟩ = (1000 : Int64).toInt := by
    have hscale : (-3 : Int64).toInt = -3 := rfl
    have hint : (1000 : Int64).toInt = 1000 := rfl
    rw [Decimal.number, hscale, hint]
    norm_num
  exact ⟨hday.1 _ (by rfl), (hexponent.2 (by rfl) _).2 ⟨rfl, _, _, by rfl, hnumber, rfl⟩⟩

end ResourceQuery.Value
