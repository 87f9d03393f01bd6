/-
  Resource queries — reading the queries of objects.

  * `Constraint.dataType_ne_of_mem`: a constraint compares with no floats.
  * `isUnwritten_introspect`: so the query of an object is one whose literals have not been
    written.
  * `parse_render_introspect`: the query of an object is read, and as the same query exactly when
    the literals of its instants denote them.
-/
import ResourceQuery.Introspection
import ResourceQuery.Proofs.Query.Rereading

namespace ResourceQuery

open Outcome

/-! ## Values of objects -/

/-- The form of a literal is never a float. -/
theorem Value.dataType_canonical_ne (v : Value) : v.canonical.dataType ≠ .float := by
  cases v with
  | float x =>
    rw [canonical]
    split <;> exact DataType.noConfusion
  | _ => exact DataType.noConfusion

namespace Constraint

variable {α : Type} [Scalar α]

theorem dataType_ne {a : α} {v : Value} (h : value? a = some v) : v.dataType ≠ .float := by
  obtain ⟨w, -, rfl⟩ := Option.map_eq_some_iff.1 h
  exact w.dataType_canonical_ne

theorem between?_eq_some {first last : α} {op : Operator} {values : List Value}
    (h : between? first last = some (op, values)) :
    ∃ v w, value? first = some v ∧ value? last = some w ∧ values = [v, w] := by
  obtain ⟨v, hv, h⟩ := Option.bind_eq_some_iff.1 h
  obtain ⟨w, hw, h⟩ := Option.bind_eq_some_iff.1 h
  exact ⟨v, w, hv, hw, (Prod.mk.inj (Option.some.inj h)).2.symm⟩

/-- A constraint compares with no floats. -/
theorem dataType_ne_of_mem {k : Constraint α} {op : Operator} {values : List Value}
    (h : k.criterion? = some (op, values)) {v : Value} (hv : v ∈ values) :
    v.dataType ≠ .float := by
  have hone {a : Option Value} (ha : ∀ w, a = some w → w.dataType ≠ .float)
      (h : a.map (fun w => (Operator.equal, [w])) = some (op, values)) : v.dataType ≠ .float := by
    obtain ⟨w, hw, h⟩ := Option.map_eq_some_iff.1 h
    obtain rfl := (Prod.mk.inj h).2
    rw [List.mem_singleton.1 hv]
    exact ha w hw
  have htwo {first last : α} (h : between? first last = some (op, values)) :
      v.dataType ≠ .float := by
    obtain ⟨a, b, ha, hb, rfl⟩ := between?_eq_some h
    rcases List.mem_pair.1 hv with rfl | rfl
    · exact dataType_ne ha
    · exact dataType_ne hb
  cases k with
  | plain a =>
    rw [criterion?] at h
    split at h
    · cases h
    · exact hone (fun _ hw => dataType_ne hw) h
  | optional a =>
    refine hone (fun w hw => ?_) h
    obtain ⟨b, -, hb⟩ := Option.bind_eq_some_iff.1 hw
    exact dataType_ne hb
  | oneOf as =>
    rw [criterion?] at h
    split at h
    · cases h
    · obtain rfl := (Prod.mk.inj (Option.some.inj h)).2
      obtain ⟨a, -, ha⟩ := List.mem_filterMap.1 hv
      exact dataType_ne ha
  | range first last => exact htwo h
  | optionalRange bounds =>
    obtain ⟨b, -, h⟩ := Option.bind_eq_some_iff.1 h
    exact htwo h

end Constraint

/-! ## Objects -/

variable {Object : Type}

/-- Whether a property of objects yields constraints on the values of a scalar type. -/
def ObjectProperty.IsTyped (p : ObjectProperty Object) : Prop :=
  ∃ (α : Type) (_ : Scalar α) (get : Object → Constraint α), p = .of p.name get

namespace Criterion

variable {properties : List (ObjectProperty Object)}

theorem literals_of_ofValues {target : Target} {op : Operator} {vs : List Value} {c : Criterion}
    (h : ofValues target op vs = .ok c) : c.literals = vs.map .ofValue :=
  (Query.make_eq_ok.1 h).2.2

/-- A criterion of an object is made of values. -/
theorem exists_values_of_introspect {o : Object} {c : Criterion}
    (h : c ∈ (introspect properties o).criteria) :
    ∃ p ∈ properties, ∃ target op vs, p.criterion? o = some (op, vs) ∧
      ofValues target op vs = .ok c := by
  obtain ⟨p, hp, h⟩ := List.mem_filterMap.1 h
  obtain ⟨⟨op, vs⟩, hvalues, h⟩ := Option.bind_eq_some_iff.1 h
  obtain ⟨target, -, h⟩ := Option.bind_eq_some_iff.1 h
  refine ⟨p, hp, target, op, vs, hvalues, ?_⟩
  cases hmade : ofValues target op vs with
  | error error => rw [hmade] at h; cases h
  | ok d =>
    rw [hmade] at h
    rw [Option.some.inj h]

end Criterion

namespace Query

variable {properties : List (ObjectProperty Object)}

/-- The literals of the query of an object come from its values. -/
theorem isUnwritten_introspect (h : ∀ p ∈ properties, p.IsTyped) (o : Object) :
    (introspect properties o).IsUnwritten := by
  intro c hc l hl
  obtain ⟨p, hp, target, op, values, hvalues, hmade⟩ := Criterion.exists_values_of_introspect hc
  obtain ⟨α, _, get, hget⟩ := h p hp
  rw [Criterion.literals_of_ofValues hmade] at hl
  obtain ⟨v, hv, rfl⟩ := List.mem_map.1 hl
  rw [hget] at hvalues
  exact ⟨rfl, Constraint.dataType_ne_of_mem hvalues hv⟩

theorem length_statements_introspect (o : Object) :
    (introspect properties o).statements.length = (introspect properties o).criteria.length := by
  simp [statements, introspect, hasProjection, hasSort]

/-- The query of an object is read, and as the same query exactly when every year stands without a
    sign and a clock shows every time.  Then the two are built with the same error, or into filters
    that are alike, accept the same items and have expressions with the same text, on any entity. -/
theorem parse_render_introspect (h : ∀ p ∈ properties, p.IsTyped) (o : Object)
    {settings : Settings}
    (hlength : (introspect properties o).render.byteSize ≤ settings.maxLength)
    (hclauses : (introspect properties o).criteria.length ≤ settings.maxClauses)
    (hvalues : ∀ c ∈ (introspect properties o).criteria,
      c.literals.length ≤ settings.maxValues) :
    ∃ q, parse settings (introspect properties o).render = .ok q ∧
      (q.same (introspect properties o) ↔
        (introspect properties o).HasPlainYears ∧ (introspect properties o).IsClocked) ∧
      (q.same (introspect properties o) →
        ∀ (S : Schema) (e : S.Entity) (wildcard : Option Char),
          Agree (fun f g : Filter S e => f.Alike g ∧ f.accepts = g.accepts ∧
              f.expression.text = g.expression.text)
            (Filter.build wildcard q.criteria)
            (Filter.build wildcard (introspect properties o).criteria)) := by
  have hunwritten := isUnwritten_introspect h o
  have hcount := hclauses
  rw [← length_statements_introspect] at hcount
  refine ⟨_, parse_render_of_isUnwritten hunwritten hlength hvalues hcount,
    same_reread_iff hunwritten, fun hsame S e wildcard => ?_⟩
  obtain ⟨hyears, hclock⟩ := (same_reread_iff hunwritten).1 hsame
  refine (Filter.build_agrees (alike_reread hunwritten hyears hclock)).mono fun f g hfg => ?_
  exact ⟨hfg, hfg.accepts_eq, hfg.text_eq⟩

/-- A property of instants that asks for the instant itself. -/
def atInstant : ObjectProperty Instant := .of "at".toList fun i => .optional (some i)

/-- The last second of the first hour of the year 10000. -/
def farInstant : Instant := ⟨⟨10000, 1, 1, by decide⟩, 3599, 0, by decide⟩

theorem isTyped_atInstant : ∀ p ∈ [atInstant], p.IsTyped := by
  intro p hp
  rw [List.mem_singleton.1 hp]
  exact ⟨Instant, inferInstance, _, rfl⟩

/-- A leap second is read as itself. -/
theorem parse_render_introspect_leap :
    ∃ q, parse .standard (introspect [atInstant] .leapSecond).render = .ok q ∧
      q.same (introspect [atInstant] .leapSecond) := by
  have hlength : (introspect [atInstant] .leapSecond).render.byteSize ≤
      Settings.standard.maxLength := by decide +kernel
  obtain ⟨q, hq, hsame, -⟩ := parse_render_introspect isTyped_atInstant .leapSecond hlength
    (by decide +kernel) (by decide +kernel)
  exact ⟨q, hq, hsame.2 (by decide +kernel)⟩

/-- An instant of the year 10000 is read as a string, and one whose time no clock shows as the
    second after. -/
theorem exists_introspected_not_reread :
    (∃ q, parse .standard (introspect [atInstant] farInstant).render = .ok q ∧
      ¬ q.same (introspect [atInstant] farInstant)) ∧
    ∃ q, parse .standard (introspect [atInstant] .overrun).render = .ok q ∧
      ¬ q.same (introspect [atInstant] .overrun) := by
  have hall : ∀ i ∈ [farInstant, .overrun],
      (introspect [atInstant] i).render.byteSize ≤ Settings.standard.maxLength ∧
      (∀ c ∈ (introspect [atInstant] i).criteria,
        c.literals.length ≤ Settings.standard.maxValues) ∧
      (introspect [atInstant] i).statements.length ≤ Settings.standard.maxClauses ∧
      ¬ ((introspect [atInstant] i).HasPlainYears ∧ (introspect [atInstant] i).IsClocked) := by
    decide +kernel
  have hread : ∀ i ∈ [farInstant, .overrun],
      ∃ q, parse .standard (introspect [atInstant] i).render = .ok q ∧
        ¬ q.same (introspect [atInstant] i) := by
    intro i hi
    obtain ⟨hlength, hvalues, hclauses, hnot⟩ := hall i hi
    have hunwritten := isUnwritten_introspect isTyped_atInstant i
    exact ⟨_, parse_render_of_isUnwritten hunwritten hlength hvalues hclauses,
      fun hsame => hnot ((same_reread_iff hunwritten).1 hsame)⟩
  exact ⟨hread _ List.mem_cons_self, hread _ (List.mem_cons_of_mem _ List.mem_cons_self)⟩

end Query

end ResourceQuery
