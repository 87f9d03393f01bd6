/-
  Resource queries — values that are written the same.

  * `Value.Alike`: two values are the same, or decimals of one number with one literal.  They
    are equal, so no comparison tells them apart.
  * `Alike.coerce?`: conversions take them to values that are alike again.
  * `alike_reread`: what the literal of a value denotes is alike to the value with the time that a
    clock shows, unless it is an instant in a year with a sign.
  * `same_reread_iff`: so it is the same value exactly when a clock shows its time besides.
-/
import ResourceQuery.Proofs.Value.Equal

namespace ResourceQuery

namespace Value

/-- Whether two values are the same, or decimals of one number that are written the same. -/
inductive Alike : Value → Value → Prop
  | refl (v : Value) : Alike v v
  | decimal {a b : Decimal} : a.number = b.number →
      (Value.decimal a).literal = (Value.decimal b).literal →
      Alike (.decimal a) (.decimal b)

variable {v w : Value}

namespace Alike

theorem equal (h : Alike v w) : Equal v w := by
  cases h with
  | refl => exact .refl v
  | decimal hn _ => exact .decimal hn

theorem literal_eq (h : Alike v w) : v.literal = w.literal := by
  cases h with
  | refl => rfl
  | decimal _ hl => exact hl

theorem rel_of_eq {x y : Option Value} (h : x = y) : Option.Rel Alike x y := by
  subst h
  cases x with
  | none => exact .none
  | some v => exact .some (.refl v)

/-- Values that are alike have readings as another type that are alike. -/
theorem coerce? (h : Alike v w) (t : DataType) :
    Option.Rel Alike (v.coerce? t) (w.coerce? t) := by
  cases h with
  | refl => exact rel_of_eq rfl
  | @decimal a b hn hl =>
    have hparse (t : DataType) :
        Option.Rel Alike (parseAs? (Value.decimal a).literal t)
          (parseAs? (Value.decimal b).literal t) :=
      rel_of_eq (by rw [hl])
    cases t with
    | decimal => exact .some (.decimal hn hl)
    | float => exact rel_of_eq (congrArg (fun x => some (Value.float x)) (Decimal.toFloat_eq hn))
    | integer =>
      exact rel_of_eq (congrArg (Option.map Value.integer) (Decimal.toInt64?_eq hn))
    | string => exact hparse .string
    | boolean => exact hparse .boolean
    | dateTime => exact hparse .dateTime
    | date => exact hparse .date

end Alike

/-! ## Rereading -/

/-- A value other than a float denotes the same as itself. -/
theorem same_self (h : v.dataType ≠ .float) : v.same v := by
  cases v with
  | float x => exact absurd rfl h
  | decimal d => exact Decimal.same_iff.2 rfl
  | _ => exact beq_self_eq_true _

/-- A value is shown as an equal one when a clock shows its time. -/
theorem same_shown_iff (hf : v.dataType ≠ .float) : v.shown.same v ↔ v.IsClocked := by
  rw [← shown_eq_self_iff]
  cases v with
  | dateTime i => rw [shown, same, beq_iff_eq, dateTime.injEq]
  | _ => exact iff_of_true (same_self hf) rfl

/-- What the literal of a value denotes is alike to the value that a clock shows. -/
theorem alike_reread (h : v.HasPlainYear) : Alike v.reread v.shown := by
  cases v with
  | decimal d => exact .decimal d.number_reread d.literal_reread
  | dateTime i =>
    have hyear : Calendar.IsPlainYear i.date.year := h
    rw [reread, if_pos hyear]
    exact .refl _
  | _ => exact .refl _

/-- Only the literals of instants can denote something else: of those in a year with a sign, and of
    those whose time no clock shows. -/
theorem same_reread_iff (hf : v.dataType ≠ .float) :
    v.reread.same v ↔ v.HasPlainYear ∧ v.IsClocked := by
  cases v with
  | decimal d => exact iff_of_true (Decimal.same_iff.2 d.number_reread) ⟨trivial, trivial⟩
  | dateTime i =>
    rw [reread, HasPlainYear]
    split
    · rename_i hyear
      rw [and_iff_right hyear]
      exact same_shown_iff hf
    · rename_i hyear
      exact iff_of_false Bool.false_ne_true fun h => hyear h.1
  | _ => exact iff_of_true (same_self hf) ⟨trivial, trivial⟩

end Value

end ResourceQuery
