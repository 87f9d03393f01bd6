/-
  Resource queries — schemas.

  * `Schema`: entities, the items of each, and the properties that their items have.  A
    property is a field with a value of its own or a reference to an item of some entity.
    Entities may refer to themselves and to each other.
  * `Schema.property?`: the property of a name.  Names are compared without the case of ASCII
    letters, and of two properties with one name the later one counts.
  * `Schema.fields`: the fields of an entity in the order of their names' registration.
-/
import ResourceQuery.Schema.FieldType

namespace ResourceQuery

/-- What an item holds of itself: values of one type, or nothing. -/
structure Field (Item : Type) where
  dataType : DataType
  nullable : Bool
  get : Item → Option Value
  typed : ∀ x v, get x = some v → v.dataType = dataType

/-- The field whose content `get` yields. -/
def Field.of {Item α : Type} [FieldType α] (get : Item → α) : Field Item where
  dataType := FieldType.dataType α
  nullable := FieldType.nullable α
  get x := FieldType.toValue? (get x)
  typed x := FieldType.typed (get x)

/-- A property of the items of the entity `e`. -/
inductive Property {Entity : Type} (Item : Entity → Type) (e : Entity) where
  | field (label : Text) (field : Field (Item e))
  | reference (label : Text) (target : Entity) (navigate : Item e → Option (Item target))

namespace Property

variable {Entity : Type} {Item : Entity → Type} {e : Entity}

/-- The name of a property, in lower case. -/
def name : Property Item e → Text
  | field label _ => Text.lower label
  | reference label _ _ => Text.lower label

/-- The type of a field; none for a reference. -/
def dataType? : Property Item e → Option DataType
  | field _ f => some f.dataType
  | reference .. => none

end Property

/-- Entities with their items and properties. -/
structure Schema where
  Entity : Type
  Item : Entity → Type
  properties : (e : Entity) → List (Property Item e)

namespace Schema

/-- The property of a name; the last one registered counts. -/
def property? (S : Schema) (e : S.Entity) (name : Text) : Option (Property S.Item e) :=
  (S.properties e).reverse.find? fun p => p.name == Text.lower name

/-- The fields among the properties, one for each registration of a name. -/
def fields (S : Schema) (e : S.Entity) : List (Property S.Item e) :=
  ((S.properties e).filterMap fun p => S.property? e p.name).filter (·.dataType?.isSome)

end Schema

end ResourceQuery
