/-
  Resource queries — paths.

  * `Route`: the way from an item to one of its properties, through any number of references.
  * `Route.read`, `Route.isNull`: what stands at its end, and whether nothing does.  A
    reference that is absent on the way makes the end null.
  * `Path`: a target with the route it denotes on an entity.
  * `Schema.resolve`: the path of a target, or the error that the entity has no such property.
-/
import ResourceQuery.Schema.Basic
import ResourceQuery.Target

namespace ResourceQuery

/-- The way from an item of an entity to a property. -/
inductive Route (S : Schema) : S.Entity → Type where
  | field {e : S.Entity} (field : Field (S.Item e)) : Route S e
  | reference {e target : S.Entity} (navigate : S.Item e → Option (S.Item target)) : Route S e
  | through {e target : S.Entity} (navigate : S.Item e → Option (S.Item target))
      (rest : Route S target) : Route S e

namespace Route

variable {S : Schema} {e : S.Entity}

/-- The type of the property; none for a reference. -/
def dataType? {e : S.Entity} : Route S e → Option DataType
  | field f => some f.dataType
  | reference _ => none
  | through _ rest => rest.dataType?

/-- Whether the property may be null by its type; a reference always may. -/
def nullable {e : S.Entity} : Route S e → Bool
  | field f => f.nullable
  | reference _ => true
  | through _ rest => rest.nullable

/-- The value at the end; none when it, or anything on the way, is null, and at the end of a
    reference. -/
def read {e : S.Entity} : Route S e → S.Item e → Option Value
  | field f, x => f.get x
  | reference _, _ => none
  | through navigate rest, x => (navigate x).bind rest.read

/-- Whether there is nothing at the end. -/
def isNull {e : S.Entity} : Route S e → S.Item e → Bool
  | field f, x => (f.get x).isNone
  | reference navigate, x => (navigate x).isNone
  | through navigate rest, x => (navigate x).all rest.isNull

/-- What stands at the end has the type of the property. -/
theorem dataType?_of_read {e : S.Entity} {r : Route S e} {x : S.Item e} {v : Value}
    (h : r.read x = some v) : r.dataType? = some v.dataType := by
  induction r with
  | field f => rw [dataType?, f.typed x v h]
  | reference navigate => cases h
  | through navigate rest ih =>
    obtain ⟨y, -, hy⟩ := Option.bind_eq_some_iff.1 h
    exact ih hy

end Route

/-- A target and the route it denotes. -/
structure Path (S : Schema) (e : S.Entity) where
  target : Target
  route : Route S e

namespace Path

variable {S : Schema} {e : S.Entity}

/-- The dotted path. -/
def text (p : Path S e) : Text := p.target.text

/-- The type of the property; none for a reference. -/
def dataType? (p : Path S e) : Option DataType := p.route.dataType?

/-- Whether the property may be null by its type. -/
def nullable (p : Path S e) : Bool := p.route.nullable

/-- The value of the property of an item. -/
def read (p : Path S e) (x : S.Item e) : Option Value := p.route.read x

/-- Whether the property of an item is null. -/
def isNull (p : Path S e) (x : S.Item e) : Bool := p.route.isNull x

theorem dataType?_of_read {p : Path S e} {x : S.Item e} {v : Value} (h : p.read x = some v) :
    p.dataType? = some v.dataType := Route.dataType?_of_read h

end Path

namespace Schema

/-- The route along a list of names. -/
def route? (S : Schema) (e : S.Entity) : List Text → Option (Route S e)
  | [] => none
  | [name] =>
    match S.property? e name with
    | some (.field _ f) => some (.field f)
    | some (.reference _ _ navigate) => some (.reference navigate)
    | none => none
  | name :: names =>
    match S.property? e name with
    | some (.reference _ target navigate) => (S.route? target names).map (.through navigate)
    | _ => none

/-- The path of a target. -/
def resolve (S : Schema) (e : S.Entity) (t : Target) : Except Error (Path S e) :=
  match S.route? e t.names with
  | some route => .ok ⟨t, route⟩
  | none => .error (.unknownProperty t.text)

end Schema

end ResourceQuery
