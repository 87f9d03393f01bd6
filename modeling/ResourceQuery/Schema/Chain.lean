/-
  Resource queries — chains of accessors.

  Resolving as in `Schema.Path`, but in one pass over the names, which keeps the entity that it
  has come to and puts the accessors in a list.  An accessor takes an item of any entity, and
  gives nothing for an item of another entity than its own.

  * `Schema.AnyItem`, `Schema.accessor`: an item of some entity, and the accessor that is made
    for the items of one.
  * `Chain`: the references on a way, in order, and what stands at its end.
  * `Chain.owner`, `Chain.read`, `Chain.isNull`: the item that a chain comes to, and what it
    holds there.
  * `Schema.resolveChain`: the chain of a target.
-/
import ResourceQuery.Schema.Path

namespace ResourceQuery

namespace Schema

/-- An item of some entity. -/
abbrev AnyItem (S : Schema) : Type := (e : S.Entity) × S.Item e

variable {S : Schema} [DecidableEq S.Entity]

/-- An accessor for the items of the entity `e`, which gives nothing for others. -/
def accessor {e : S.Entity} {α : Type} (get : S.Item e → Option α) (x : S.AnyItem) : Option α :=
  if h : x.1 = e then get (h ▸ x.2) else none

/-- The accessor of a reference. -/
def navigator {e target : S.Entity} (navigate : S.Item e → Option (S.Item target)) :
    S.AnyItem → Option S.AnyItem :=
  accessor fun x => (navigate x).map (Sigma.mk target)

@[simp] theorem accessor_mk {e : S.Entity} {α : Type} (get : S.Item e → Option α) (x : S.Item e) :
    accessor get ⟨e, x⟩ = get x := dif_pos rfl

@[simp] theorem navigator_mk {e target : S.Entity}
    (navigate : S.Item e → Option (S.Item target)) (x : S.Item e) :
    navigator navigate ⟨e, x⟩ = (navigate x).map (Sigma.mk target) := dif_pos rfl

end Schema

/-- What stands at the end of a chain. -/
inductive Leaf (S : Schema) where
  | field (dataType : DataType) (nullable : Bool) (get : S.AnyItem → Option Value)
  | reference (navigate : S.AnyItem → Option S.AnyItem)

/-- A target with the accessors on the way to it, in order, and what stands at its end. -/
structure Chain (S : Schema) where
  target : Target
  hops : List (S.AnyItem → Option S.AnyItem)
  leaf : Leaf S

namespace Chain

variable {S : Schema}

/-- The type of the property; none for a reference. -/
def dataType? (c : Chain S) : Option DataType :=
  match c.leaf with
  | .field t _ _ => some t
  | .reference _ => none

/-- Whether the property may be null by its type; a reference always may. -/
def nullable (c : Chain S) : Bool :=
  match c.leaf with
  | .field _ nullable _ => nullable
  | .reference _ => true

/-- The item at the end of some references; none when one on the way is absent. -/
def follow (hops : List (S.AnyItem → Option S.AnyItem)) (x : S.AnyItem) : Option S.AnyItem :=
  hops.foldlM (fun x hop => hop x) x

/-- The item that has the property at the end of a chain. -/
def owner (c : Chain S) (x : S.AnyItem) : Option S.AnyItem := follow c.hops x

/-- The value of the property of an item. -/
def read (c : Chain S) (x : S.AnyItem) : Option Value := do
  let owner ← c.owner x
  match c.leaf with
  | .field _ _ get => get owner
  | .reference _ => none

/-- Whether the property of an item is null. -/
def isNull (c : Chain S) (x : S.AnyItem) : Bool :=
  match c.owner x with
  | none => true
  | some owner =>
    match c.leaf with
    | .field _ _ get => (get owner).isNone
    | .reference navigate => (navigate owner).isNone

end Chain

namespace Schema

variable (S : Schema) [DecidableEq S.Entity]

/-- One name further: the entity that a reference leads to, and the accessors with one more. -/
def hop? (state : S.Entity × List (S.AnyItem → Option S.AnyItem)) (name : Text) :
    Option (S.Entity × List (S.AnyItem → Option S.AnyItem)) :=
  match S.property? state.1 name with
  | some (.reference _ target navigate) => some (target, state.2 ++ [navigator navigate])
  | _ => none

/-- The end of a chain at a property of an entity. -/
def leaf? (e : S.Entity) (name : Text) : Option (Leaf S) :=
  match S.property? e name with
  | some (.field _ f) => some (.field f.dataType f.nullable (accessor f.get))
  | some (.reference _ _ navigate) => some (.reference (navigator navigate))
  | none => none

/-- The accessors along a list of names, and the end; the last name is not a way on. -/
def chain? (e : S.Entity) (names : List Text) :
    Option (List (S.AnyItem → Option S.AnyItem) × Leaf S) := do
  let last ← names.getLast?
  let (owner, hops) ← names.dropLast.foldlM S.hop? (e, [])
  let leaf ← S.leaf? owner last
  return (hops, leaf)

/-- The chain of a target. -/
def resolveChain (e : S.Entity) (t : Target) : Except Error (Chain S) :=
  match S.chain? e t.names with
  | some (hops, leaf) => .ok ⟨t, hops, leaf⟩
  | none => .error (.unknownProperty t.text)

end Schema

end ResourceQuery
