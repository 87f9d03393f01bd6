/-
  Resource queries — criteria of the properties that are set.

  * `Constraint.members`, `Constraint.operator`, `Constraint.isSet`: what a constraint compares
    with, how, and whether it asks for anything.
  * `Constraint.criterion?_eq`: a constraint that is set is dropped when one of its members has no
    value; of a list, only such members are.
  * `TypedProperty`: a property of objects with the scalar type that it is about.
  * `TypedProperty.Leaves`, `TypedProperty.Demands`: a criterion is what is left of a property, or
    asks for all that the property does.
  * `forall₂_leaves`, `introspect_populated`: the criteria of an object are what is left of its
    properties; they ask for all that is set exactly when the members of that have values.
-/
import ResourceQuery.Proofs.Filter.Null
import ResourceQuery.Proofs.Introspection

namespace ResourceQuery

open Outcome

namespace Constraint

variable {α : Type}

/-- What a constraint compares with, in order. -/
def members : Constraint α → List α
  | plain a => [a]
  | optional a => a.toList
  | oneOf as => as
  | range first last => [first, last]
  | optionalRange none => []
  | optionalRange (some (first, last)) => [first, last]

/-- How a constraint compares. -/
def operator : Constraint α → Operator
  | plain _ | optional _ => .equal
  | oneOf _ => .oneOf
  | range _ _ | optionalRange _ => .between

variable [Scalar α]

/-- Whether a constraint asks for something. -/
def isSet : Constraint α → Bool
  | plain a => !isUnset a
  | optional a => a.isSome
  | oneOf as => !as.isEmpty
  | range _ _ => true
  | optionalRange bounds => bounds.isSome

/-- Whether something is left of a constraint when members without a value are dropped. -/
def isKept (k : Constraint α) : Bool :=
  match k with
  | oneOf as => as.any fun a => (Scalar.toValue? a).isSome
  | k => k.isSet && k.members.all fun a => (Scalar.toValue? a).isSome

theorem isSome_value? (a : α) : (value? a).isSome = (Scalar.toValue? a).isSome := Option.isSome_map

/-- A range has the values of both of its bounds, or none. -/
theorem between?_eq (first last : α) :
    between? first last =
      if [first, last].all fun a => (Scalar.toValue? a).isSome then
        some (.between, [first, last].filterMap value?)
      else none := by
  simp only [List.all_cons, List.all_nil, ← isSome_value?, between?]
  cases hfirst : value? first with
  | none => rfl
  | some v =>
    cases hlast : value? last with
    | none => rfl
    | some w => simp [hfirst, hlast]

/-- What a constraint comes to. -/
theorem criterion?_eq (k : Constraint α) :
    k.criterion? = if k.isKept then some (k.operator, k.members.filterMap value?) else none := by
  cases k with
  | plain a =>
    simp only [criterion?, isKept, isSet, members, List.all_cons, List.all_nil, ← isSome_value?]
    cases isUnset a with
    | true => rfl
    | false => cases hvalue : value? a <;> simp [hvalue, operator]
  | optional a =>
    cases a with
    | none => rfl
    | some a =>
      simp only [criterion?, isKept, isSet, members, Option.toList, List.all_cons, List.all_nil,
        ← isSome_value?]
      cases hvalue : value? a <;> simp [hvalue, operator]
  | oneOf as =>
    have hempty : (as.filterMap value?).isEmpty = !as.any fun a => (Scalar.toValue? a).isSome := by
      simp only [← isSome_value?]
      induction as with
      | nil => rfl
      | cons a as ih => cases hvalue : value? a <;> simp [hvalue, ih]
    rw [criterion?, isKept, hempty]
    cases as.any fun a => (Scalar.toValue? a).isSome <;> rfl
  | range first last => exact between?_eq first last
  | optionalRange bounds =>
    cases bounds with
    | none => rfl
    | some bounds => exact between?_eq bounds.1 bounds.2

/-- What is left of a constraint has been asked for. -/
theorem isSet_of_isKept {k : Constraint α} (h : k.isKept) : k.isSet := by
  cases k with
  | oneOf as =>
    cases as with
    | nil => cases h
    | cons a as => rfl
  | range first last => rfl
  | _ => exact (Bool.and_eq_true_iff.1 h).1

/-- A constraint that asks for something is not dropped when its members have values. -/
theorem isKept_of_isSet {k : Constraint α} (h : k.isSet)
    (hmembers : ∀ a ∈ k.members, (Scalar.toValue? a).isSome) : k.isKept := by
  cases k with
  | oneOf as =>
    cases as with
    | nil => cases h
    | cons a as => exact List.any_eq_true.2 ⟨a, List.mem_cons_self, hmembers a List.mem_cons_self⟩
  | range first last => exact List.all_eq_true.2 hmembers
  | _ => exact Bool.and_eq_true_iff.2 ⟨h, List.all_eq_true.2 hmembers⟩

/-- The values are as many as the operator takes. -/
theorem accepts_of_isKept {k : Constraint α} (h : k.isKept) :
    k.operator.arity.accepts (k.members.filterMap value?).length := by
  have hcount (hall : k.members.all fun a => (Scalar.toValue? a).isSome) :
      (k.members.filterMap value?).length = k.members.length :=
    List.filterMap_length_eq_length.2 fun a ha => by
      rw [isSome_value?]
      exact List.all_eq_true.1 hall a ha
  cases k with
  | plain a => rw [hcount (Bool.and_eq_true_iff.1 h).2]; rfl
  | optional a =>
    cases a with
    | none => cases h
    | some a => rw [hcount h]; rfl
  | oneOf as =>
    obtain ⟨a, ha, hvalue⟩ := List.any_eq_true.1 h
    rw [← isSome_value?] at hvalue
    exact decide_eq_true
      (List.length_filterMap_pos_iff.2 ⟨a, ha, Option.isSome_iff_exists.1 hvalue⟩)
  | range first last => rw [hcount h]; rfl
  | optionalRange bounds =>
    cases bounds with
    | none => cases h
    | some bounds => rw [hcount h]; rfl

end Constraint

/-- A property of objects, with the scalar type of what it asks for. -/
structure TypedProperty (Object : Type) where
  name : Text
  Content : Type
  scalar : Scalar Content
  get : Object → Constraint Content

namespace TypedProperty

variable {Object : Type}

instance (p : TypedProperty Object) : Scalar p.Content := p.scalar

/-- The property as one of objects that is known by its criterion. -/
def toProperty (p : TypedProperty Object) : ObjectProperty Object := .of p.name p.get

/-- Whether a criterion is what is left of a property: it is about the property of that name and
    compares in the same way, with the values of the members that have one. -/
structure Leaves (p : TypedProperty Object) (o : Object) (c : Criterion) : Prop where
  target : Target.read (constrainedName p.name) = .ok c.target
  operator : c.operator = (p.get o).operator
  literals : c.literals = ((p.get o).members.filterMap Constraint.value?).map .ofValue

/-- Whether a criterion asks for all that a property does: it compares with the value of each
    member, in order. -/
structure Demands (p : TypedProperty Object) (o : Object) (c : Criterion) : Prop where
  target : Target.read (constrainedName p.name) = .ok c.target
  operator : c.operator = (p.get o).operator
  literals : c.literals.map some =
    (p.get o).members.map fun a => (Constraint.value? a).map .ofValue

variable {p : TypedProperty Object} {o : Object} {c : Criterion}

/-- All of a property is left when its members have values. -/
theorem Leaves.demands (h : p.Leaves o c)
    (hmembers : ∀ a ∈ (p.get o).members, (Scalar.toValue? a).isSome) : p.Demands o c := by
  refine ⟨h.target, h.operator, ?_⟩
  have hvalues : ∀ v ∈ (p.get o).members.map Constraint.value?, v.isSome := by
    rw [List.forall_mem_map]
    intro a ha
    rw [Constraint.isSome_value?]
    exact hmembers a ha
  calc c.literals.map some
      = (((p.get o).members.filterMap Constraint.value?).map some).map (·.map .ofValue) := by
        rw [h.literals, List.map_map, List.map_map]
        rfl
    _ = ((p.get o).members.map Constraint.value?).map (·.map .ofValue) := by
        rw [List.map_filterMap_some_eq_filter_map_isSome, List.filter_eq_self.2 hvalues]
    _ = _ := List.map_map

/-- The members of a property that a criterion asks for have values. -/
theorem Demands.isSome_toValue? (h : p.Demands o c) {a : p.Content} (ha : a ∈ (p.get o).members) :
    (Scalar.toValue? a).isSome := by
  have hmem := List.mem_map_of_mem (f := fun a => (Constraint.value? a).map Literal.ofValue) ha
  rw [← h.literals] at hmem
  obtain ⟨l, -, hl⟩ := List.mem_map.1 hmem
  rw [← Constraint.isSome_value?, ← Option.isSome_map, ← hl]
  rfl

/-- What is left of a property is its criterion. -/
theorem exists_toCriterion? {t : Target} (hname : Target.read (constrainedName p.name) = .ok t)
    (h : (p.get o).isKept) : ∃ c, p.toProperty.toCriterion? o = some c ∧ p.Leaves o c := by
  have hcriterion : p.toProperty.criterion? o =
      some ((p.get o).operator, (p.get o).members.filterMap Constraint.value?) := by
    show (p.get o).criterion? = _
    rw [Constraint.criterion?_eq, if_pos h]
  have hcount := Constraint.accepts_of_isKept h
  rw [← List.length_map Literal.ofValue] at hcount
  obtain ⟨c, hmade⟩ : ∃ c, Criterion.ofValues t (p.get o).operator
      ((p.get o).members.filterMap Constraint.value?) = .ok c :=
    ⟨⟨t, _, _, hcount⟩, Query.make_eq_ok.2 ⟨rfl, rfl, rfl⟩⟩
  obtain ⟨rfl, hoperator, hliterals⟩ := Query.make_eq_ok.1 hmade
  refine ⟨c, ?_, hname, hoperator, hliterals⟩
  rw [ObjectProperty.toCriterion?, hcriterion]
  show (Target.read (constrainedName p.name)).toOption.bind _ = _
  rw [hname]
  show (Criterion.ofValues c.target _ _).toOption = _
  rw [hmade]
  rfl

theorem toCriterion?_eq_none (h : (p.get o).isKept = false) :
    p.toProperty.toCriterion? o = none := by
  have hnone : p.toProperty.criterion? o = none := by
    show (p.get o).criterion? = none
    rw [Constraint.criterion?_eq, h]
    rfl
  rw [ObjectProperty.toCriterion?, hnone]
  rfl

variable {ps : List (TypedProperty Object)}

/-- The criteria of an object, in the order of its properties. -/
theorem forall₂_leaves (o : Object)
    (hnames : ∀ p ∈ ps, ∃ t, Target.read (constrainedName p.name) = .ok t) :
    List.Forall₂ (fun p c => p.Leaves o c) (ps.filter fun p => (p.get o).isKept)
      (introspect (ps.map toProperty) o).criteria := by
  show List.Forall₂ _ _ ((ps.map toProperty).filterMap (·.toCriterion? o))
  induction ps with
  | nil => exact .nil
  | cons p ps ih =>
    obtain ⟨⟨t, hname⟩, hnames⟩ := List.forall_mem_cons.1 hnames
    rw [List.map_cons, List.filterMap_cons, List.filter_cons]
    cases hkept : (p.get o).isKept with
    | false =>
      rw [toCriterion?_eq_none hkept]
      exact ih hnames
    | true =>
      obtain ⟨c, hc, hleaves⟩ := exists_toCriterion? hname hkept
      rw [hc]
      exact .cons hleaves (ih hnames)

/-- The criteria of an object ask for all that is set, when the members of that have values. -/
theorem forall₂_demands {o : Object}
    (hnames : ∀ p ∈ ps, ∃ t, Target.read (constrainedName p.name) = .ok t)
    (hmembers : ∀ p ∈ ps, (p.get o).isSet → ∀ a ∈ (p.get o).members, (Scalar.toValue? a).isSome) :
    List.Forall₂ (fun p c => p.Demands o c) (ps.filter fun p => (p.get o).isSet)
      (introspect (ps.map toProperty) o).criteria := by
  have hkept : (ps.filter fun p => (p.get o).isKept) = ps.filter fun p => (p.get o).isSet :=
    List.filter_congr fun p hp => Bool.eq_iff_iff.2
      ⟨Constraint.isSet_of_isKept, fun h => Constraint.isKept_of_isSet h (hmembers p hp h)⟩
  have hleaves := forall₂_leaves o hnames
  rw [hkept] at hleaves
  have hall : ∀ p ∈ ps.filter fun p => (p.get o).isSet,
      ∀ a ∈ (p.get o).members, (Scalar.toValue? a).isSome := fun p hp =>
    hmembers p (List.mem_filter.1 hp).1 (List.mem_filter.1 hp).2
  exact ((List.forall₂_and_left _ _).2 ⟨hall, hleaves⟩).imp fun _ _ h => h.2.demands h.1

/-- The query of an object whose properties have proper names has one criterion for each property
    of which something is left, in the order of the properties.  There is one for each property
    that is set, with all of its values, exactly when the members of these properties have
    values; and the members that have none are the unsigned numbers beyond the signed range. -/
theorem introspect_populated (o : Object)
    (hnames : ∀ p ∈ ps, ∃ t, Target.read (constrainedName p.name) = .ok t) :
    List.Forall₂ (fun p c => p.Leaves o c) (ps.filter fun p => (p.get o).isKept)
      (introspect (ps.map toProperty) o).criteria ∧
    (∀ p ∈ ps, (p.get o).isKept → (p.get o).isSet) ∧
    (List.Forall₂ (fun p c => p.Demands o c) (ps.filter fun p => (p.get o).isSet)
      (introspect (ps.map toProperty) o).criteria ↔
        ∀ p ∈ ps, (p.get o).isSet → ∀ a ∈ (p.get o).members, (Scalar.toValue? a).isSome) ∧
    ∀ n : UInt64, (Scalar.toValue? n).isSome ↔ n.toNat ≤ 9223372036854775807 := by
  refine ⟨forall₂_leaves o hnames, fun p _ => Constraint.isSet_of_isKept,
    ⟨fun hdemands => ?_, forall₂_demands hnames⟩, fun n => ?_⟩
  · have hvalues := hdemands.imp fun p c h => (⟨fun _ => h.isSome_toValue?, h⟩ :
      (∀ a ∈ (p.get o).members, (Scalar.toValue? a).isSome) ∧ p.Demands o c)
    obtain ⟨hall, -⟩ := (List.forall₂_and_left _ _).1 hvalues
    exact fun p hp hset => hall p (List.mem_filter.2 ⟨hp, hset⟩)
  · rw [Option.isSome_iff_ne_none, ← Nat.not_lt]
    exact not_congr (Field.get_eq_none_of_unsigned id)

/-- What is searched for: a name, a range of ages, and some numbers. -/
structure Search where
  name : Text
  ages : Option (Int32 × Int32)
  numbers : List UInt64

/-- The properties of a search. -/
def searched : List (TypedProperty Search) :=
  [⟨"name".toList, Text, inferInstance, fun s => .plain s.name⟩,
   ⟨"age_range".toList, Int32, inferInstance, fun s => .optionalRange s.ages⟩,
   ⟨"number_in".toList, UInt64, inferInstance, fun s => .oneOf s.numbers⟩]

/-- A search for a name and two numbers, both of which its query has. -/
theorem introspect_populated_searched :
    List.Forall₂ (fun p c => TypedProperty.Demands p ⟨"bob".toList, none, [1, 2]⟩ c)
      (searched.filter fun p => (p.get ⟨"bob".toList, none, [1, 2]⟩).isSet)
      (introspect (searched.map toProperty) ⟨"bob".toList, none, [1, 2]⟩).criteria := by
  have hnames : ∀ p ∈ searched, ∃ t, Target.read (constrainedName p.name) = .ok t := by
    simp only [searched, List.forall_mem_cons]
    exact ⟨⟨_, rfl⟩, ⟨_, rfl⟩, ⟨_, rfl⟩, List.forall_mem_nil _⟩
  obtain ⟨-, -, hdemands, hunsigned⟩ := introspect_populated ⟨"bob".toList, none, [1, 2]⟩ hnames
  refine hdemands.2 ?_
  simp only [searched, List.forall_mem_cons]
  refine ⟨fun _ _ _ => rfl, fun _ => List.forall_mem_nil _, fun _ n hn => (hunsigned n).2 ?_,
    List.forall_mem_nil _⟩
  rcases List.mem_pair.1 hn with rfl | rfl <;> decide

/-- A search for a number beyond the signed range is one for everything, and where such a number
    stands among others the search is for those. -/
theorem exists_populated_lost :
    ((searched.filter fun p => (p.get ⟨[], none, [18446744073709551615]⟩).isSet).map name =
      ["number_in".toList]) ∧
    (introspect (searched.map toProperty) ⟨[], none, [18446744073709551615]⟩).criteria = [] ∧
    (introspect (searched.map toProperty) ⟨[], none, [1, 18446744073709551615]⟩).criteria.map
      Criterion.values = [[.integer 1]] := by
  decide +kernel

end TypedProperty

end ResourceQuery
