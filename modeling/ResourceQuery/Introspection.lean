/-
  Resource queries — queries from objects.

  * `Constraint`: what a property of an object says about a property of an entity: a value, an
    optional value, a list of values, or a range.
  * `Constraint.criterion?`: the operator and the values of a constraint; none when the
    property has not been set, or when its content has no value.
  * `introspect`: the query of all properties of an object that are set, in their order.
  * `introspectFor`: the same, when the entity has every property it mentions.
-/
import ResourceQuery.Query.Basic
import ResourceQuery.Schema.Path
import ResourceQuery.Value.Coerce

namespace ResourceQuery

/-- What one property of an object asks for. -/
inductive Constraint (α : Type) where
  /-- Equality, unless the value is that of a property that has not been set. -/
  | plain (a : α)
  /-- Equality with whatever is there. -/
  | optional (a : Option α)
  /-- Equality with one of the values, if there are any. -/
  | oneOf (as : List α)
  /-- Between the two, both included. -/
  | range (first last : α)
  /-- Between the two of a range that is there. -/
  | optionalRange (bounds : Option (α × α))

namespace Constraint

variable {α : Type} [Scalar α]

/-- The value of a scalar in the form a literal has. -/
def value? (a : α) : Option Value := (Scalar.toValue? a).map Value.canonical

/-- Whether a scalar is what a property holds that has not been set. -/
def isUnset (a : α) : Bool :=
  (Scalar.toValue? a).any fun v => v.same (Scalar.dataType α).default

/-- A range as an operator with its bounds. -/
def between? (first last : α) : Option (Operator × List Value) := do
  return (.between, [← value? first, ← value? last])

/-- The operator and the values of a constraint. -/
def criterion? : Constraint α → Option (Operator × List Value)
  | plain a => if isUnset a then none else (value? a).map fun v => (.equal, [v])
  | optional a => (a.bind value?).map fun v => (.equal, [v])
  | oneOf as =>
    let values := as.filterMap value?
    if values.isEmpty then none else some (.oneOf, values)
  | range first last => between? first last
  | optionalRange bounds => bounds.bind fun (first, last) => between? first last

end Constraint

/-- A property of the objects of type `Object` that asks for something. -/
structure ObjectProperty (Object : Type) where
  name : Text
  criterion? : Object → Option (Operator × List Value)

/-- The property of the given name with the constraint that `get` yields. -/
def ObjectProperty.of {Object α : Type} [Scalar α] (name : Text)
    (get : Object → Constraint α) : ObjectProperty Object :=
  ⟨name, fun o => (get o).criterion?⟩

/-- The text without an ending, when it has that ending and more. -/
def dropEnding? (ending t : Text) : Option Text :=
  if ending.isSuffixOf t then some (t.take (t.length - ending.length)) else none

/-- The name of the property that a property of an object is about: `age_range` and
    `status_in` are about `age` and `status`. -/
def constrainedName (name : Text) : Text :=
  let name := Text.lower name
  match dropEnding? "_range".toList name <|> dropEnding? "_in".toList name with
  | some rest => if rest.isEmpty then name else rest
  | none => name

namespace ObjectProperty

variable {Object : Type}

/-- The criterion of a property of an object; none when it is not set or has no valid name. -/
def toCriterion? (p : ObjectProperty Object) (o : Object) : Option Criterion := do
  let (op, values) ← p.criterion? o
  let target ← (Target.read (constrainedName p.name)).toOption
  (Criterion.ofValues target op values).toOption

end ObjectProperty

variable {Object : Type}

/-- The query that the properties of an object ask for. -/
def introspect (properties : List (ObjectProperty Object)) (o : Object) : Query :=
  { criteria := properties.filterMap (·.toCriterion? o) }

/-- The first error among criteria on an entity that lacks their property. -/
def checkTargets (S : Schema) (e : S.Entity) : List Criterion → Except Error Unit
  | [] => .ok ()
  | c :: cs =>
    match S.resolve e c.target with
    | .ok _ => checkTargets S e cs
    | .error err => .error err

/-- The query that the properties of an object ask for, on an entity that has them all. -/
def introspectFor (S : Schema) (e : S.Entity) (properties : List (ObjectProperty Object))
    (o : Object) : Except Error Query :=
  let q := introspect properties o
  (checkTargets S e q.criteria).map fun _ => q

end ResourceQuery
