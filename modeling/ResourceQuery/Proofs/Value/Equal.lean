/-
  Resource queries — values that denote the same.

  * `coerce?_decimal_eq_none`: a decimal has no reading as a truth value, a date or an instant.
  * `Value.Equal`: two values are the same, or decimals of one number.
  * `Equal.same_eq`, `Equal.cmp?_eq`: no comparison tells equal values apart.
  * `Equal.coerce?`: neither does a conversion to any type but strings, for which the literal of
    a decimal shows how many places it was written with.
-/
import ResourceQuery.Proofs.Value.Literal
import ResourceQuery.Value.Coerce

namespace ResourceQuery

namespace Value

/-- The literal of a decimal is a decimal, also without the blanks that it does not have. -/
theorem hasForm_literal_decimal (d : Decimal) :
    HasForm (Text.trim (decimal d).literal) .decimal := by
  have hread := d.notated_literal.read?_eq
  rw [Decimal.trim_of_read? hread]
  exact .decimal hread

/-- A decimal has no reading as a truth value, a date or an instant. -/
theorem coerce?_decimal_eq_none (d : Decimal) {t : DataType}
    (ht : t = .boolean ∨ t = .date ∨ t = .dateTime) : (decimal d).coerce? t = none := by
  have hserves : ¬ Serves .decimal t := by rcases ht with rfl | rfl | rfl <;> simp [Serves]
  have hnone := parseAs?_eq_none (hasForm_literal_decimal d) hserves
  rcases ht with rfl | rfl | rfl <;> exact hnone

/-! ## Equal values -/

/-- Whether two values are the same, or decimals of one number. -/
inductive Equal : Value → Value → Prop
  | refl (v : Value) : Equal v v
  | decimal {a b : Decimal} : a.number = b.number → Equal (.decimal a) (.decimal b)

variable {v w v' w' : Value}

/-- Values other than floats that denote the same are equal. -/
theorem equal_of_same (h : v.same w) (hf : v.dataType ≠ .float) : v.Equal w := by
  cases v <;> cases w <;> try cases h
  case float => exact absurd rfl hf
  case decimal => exact .decimal (Decimal.same_iff.1 h)
  all_goals
    rw [same, beq_iff_eq] at h
    rw [h]
    exact .refl _

namespace Equal

theorem text?_eq (h : Equal v w) : v.text? = w.text? := by cases h <;> rfl

theorem same_eq (h : Equal v w) (actual : Value) : actual.same v = actual.same w := by
  cases h with
  | refl => rfl
  | decimal hn =>
    cases actual with
    | decimal d =>
      show d.same _ = d.same _
      rw [Bool.eq_iff_iff, Decimal.same_iff, Decimal.same_iff, hn]
    | _ => rfl

theorem cmp?_eq (h : Equal v w) (h' : Equal v' w') : v.cmp? v' = w.cmp? w' := by
  have hleft (u : Value) : v.cmp? u = w.cmp? u := by
    cases h with
    | refl => rfl
    | decimal hn =>
      cases u with
      | decimal d =>
        show some (Decimal.cmp _ d) = some (Decimal.cmp _ d)
        rw [Decimal.cmp_eq, Decimal.cmp_eq, hn]
      | _ => rfl
  have hright (u : Value) : u.cmp? v' = u.cmp? w' := by
    cases h' with
    | refl => rfl
    | decimal hn =>
      cases u with
      | decimal d =>
        show some (d.cmp _) = some (d.cmp _)
        rw [Decimal.cmp_eq, Decimal.cmp_eq, hn]
      | _ => rfl
  rw [hleft, hright]

theorem rel_of_eq {x y : Option Value} (h : x = y) : Option.Rel Equal x y := by
  subst h
  cases x with
  | none => exact .none
  | some v => exact .some (.refl v)

/-- Equal values have equal readings as another type, unless this is the type of strings. -/
theorem coerce? (h : Equal v w) {t : DataType} (ht : t ≠ .string) :
    Option.Rel Equal (v.coerce? t) (w.coerce? t) := by
  cases h with
  | refl => exact rel_of_eq rfl
  | @decimal a b hn =>
    have hnone (hone : t = .boolean ∨ t = .date ∨ t = .dateTime) :
        Option.Rel Equal ((Value.decimal a).coerce? t) ((Value.decimal b).coerce? t) :=
      rel_of_eq (by rw [coerce?_decimal_eq_none a hone, coerce?_decimal_eq_none b hone])
    cases t with
    | string => exact absurd rfl ht
    | decimal => exact .some (.decimal hn)
    | float => exact rel_of_eq (congrArg (fun x => some (Value.float x)) (Decimal.toFloat_eq hn))
    | integer => exact rel_of_eq (congrArg (Option.map Value.integer) (Decimal.toInt64?_eq hn))
    | boolean => exact hnone (by simp)
    | date => exact hnone (by simp)
    | dateTime => exact hnone (by simp)

end Equal

end Value

end ResourceQuery
