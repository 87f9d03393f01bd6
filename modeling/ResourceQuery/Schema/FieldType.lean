/-
  Resource queries — types of fields.

  * `Scalar`: a type whose members are values of one data type.  An unsigned number beyond the
    signed range of 64 bits has no value.
  * `FieldType`: a scalar type, or one with the option of nothing, which makes the field
    nullable.  `typed` says that values have the data type that is claimed for them.
-/
import ResourceQuery.Value.Basic

namespace ResourceQuery

/-- A type whose members are values of one data type, as far as they have a value. -/
class Scalar (α : Type) where
  dataType : DataType
  toValue? : α → Option Value
  typed : ∀ a v, toValue? a = some v → v.dataType = dataType

/-- A type that a field can have. -/
class FieldType (α : Type) where
  dataType : DataType
  nullable : Bool
  toValue? : α → Option Value
  typed : ∀ a v, toValue? a = some v → v.dataType = dataType

/-- The value of an integer within the signed range of 64 bits. -/
def integerValue? (i : Int) : Option Value := (Numeral.int64? i).map .integer

theorem dataType_integerValue? {i : Int} {v : Value} (h : integerValue? i = some v) :
    v.dataType = .integer := by
  obtain ⟨_, _, rfl⟩ := Option.map_eq_some_iff.1 h
  rfl

instance : Scalar Text := ⟨.string, fun t => some (.string t), by rintro _ _ ⟨⟩; rfl⟩

instance : Scalar Int8 :=
  ⟨.integer, fun i => integerValue? i.toInt, fun _ _ => dataType_integerValue?⟩

instance : Scalar Int16 :=
  ⟨.integer, fun i => integerValue? i.toInt, fun _ _ => dataType_integerValue?⟩

instance : Scalar Int32 :=
  ⟨.integer, fun i => integerValue? i.toInt, fun _ _ => dataType_integerValue?⟩

instance : Scalar Int64 := ⟨.integer, fun i => some (.integer i), by rintro _ _ ⟨⟩; rfl⟩

instance : Scalar UInt8 :=
  ⟨.integer, fun n => integerValue? n.toNat, fun _ _ => dataType_integerValue?⟩

instance : Scalar UInt16 :=
  ⟨.integer, fun n => integerValue? n.toNat, fun _ _ => dataType_integerValue?⟩

instance : Scalar UInt32 :=
  ⟨.integer, fun n => integerValue? n.toNat, fun _ _ => dataType_integerValue?⟩

instance : Scalar UInt64 :=
  ⟨.integer, fun n => integerValue? n.toNat, fun _ _ => dataType_integerValue?⟩

instance : Scalar Float := ⟨.float, fun x => some (.float x), by rintro _ _ ⟨⟩; rfl⟩

instance : Scalar Float32 := ⟨.float, fun x => some (.float x.toFloat), by rintro _ _ ⟨⟩; rfl⟩

instance : Scalar Decimal := ⟨.decimal, fun d => some (.decimal d), by rintro _ _ ⟨⟩; rfl⟩

instance : Scalar Bool := ⟨.boolean, fun b => some (.boolean b), by rintro _ _ ⟨⟩; rfl⟩

instance : Scalar Instant := ⟨.dateTime, fun i => some (.dateTime i), by rintro _ _ ⟨⟩; rfl⟩

instance : Scalar Date := ⟨.date, fun d => some (.date d), by rintro _ _ ⟨⟩; rfl⟩

instance {α : Type} [Scalar α] : FieldType α :=
  ⟨Scalar.dataType α, false, Scalar.toValue?, Scalar.typed⟩

instance {α : Type} [FieldType α] : FieldType (Option α) where
  dataType := FieldType.dataType α
  nullable := true
  toValue? a := a.bind FieldType.toValue?
  typed a v h := by
    obtain ⟨b, _, hb⟩ := Option.bind_eq_some_iff.1 h
    exact FieldType.typed b v hb

end ResourceQuery
