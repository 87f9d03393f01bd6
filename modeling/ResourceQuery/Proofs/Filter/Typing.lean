/-
  Resource queries — types of comparisons.

  * `Value.dataType_of_coerce?`: what a value is converted to has the type that is asked for.
  * `Comparison.WellTyped`: the target of a comparison is a path of the entity with the type that
    the comparison states, the type supports the operator, and the values fit both.
  * `compile_wellTyped`: one criterion is compiled to a well-typed comparison.
  * `Combined.wellTyped`: so all comparisons of a filter are well-typed, however it is put
    together.
-/
import ResourceQuery.Proofs.Filter.Conjunction
import ResourceQuery.Proofs.Filter.Expression
import ResourceQuery.Proofs.Value.Order

namespace ResourceQuery

open Outcome

/-! ## Types of values -/

namespace Value

variable {v w : Value}

/-- What is made of a reading has the type of everything that is made so. -/
theorem dataType_of_map {α : Type} {make : α → Value} {t : DataType}
    (hmake : ∀ a, (make a).dataType = t) {x : Option α} (h : x.map make = some v) :
    v.dataType = t := by
  obtain ⟨a, -, rfl⟩ := Option.map_eq_some_iff.1 h
  exact hmake a

theorem dataType_of_parseAs? {s : Text} {t : DataType} (h : parseAs? s t = some v) :
    v.dataType = t := by
  cases t with
  | string => rw [← Option.some.inj h]; rfl
  | integer => exact dataType_of_map (fun _ => rfl) h
  | float => exact dataType_of_map (fun _ => rfl) h
  | decimal => exact dataType_of_map (fun _ => rfl) h
  | boolean => exact dataType_of_map (fun _ => rfl) h
  | dateTime => exact dataType_of_map (fun _ => rfl) h
  | date => exact dataType_of_map (fun _ => rfl) h

/-- A conversion, direct or through the text of the literal, gives the type asked for. -/
theorem dataType_of_coerce? {t : DataType} (h : v.coerce? t = some w) : w.dataType = t := by
  unfold coerce? at h
  split at h
  · rename_i htype
    rw [← Option.some.inj h]
    exact htype
  · split at h
    case h_1 | h_2 | h_3 | h_5 => rw [← Option.some.inj h]; rfl
    case h_4 | h_6 => exact dataType_of_map (fun _ => rfl) h
    case h_7 => exact dataType_of_parseAs? h

/-! ## Orders of values -/

/-- Only values of one type are ordered. -/
theorem dataType_eq_of_cmp? {o : Ordering} (h : v.cmp? w = some o) : v.dataType = w.dataType := by
  cases v <;> cases w <;> first | rfl | cases h

/-- Of two values at most one is greater than the other. -/
theorem isGreater_asymm (h : v.isGreater w) : ¬ w.isGreater v := by
  rw [isGreater_iff] at h ⊢
  by_cases hf : v.dataType = .float
  · -- the order of floats is not total, but tries both directions
    have htype := dataType_eq_of_cmp? h
    cases v <;> cases hf
    cases w <;> cases htype
    rename_i a b
    rw [cmp?, cmpFloat?] at h ⊢
    split_ifs at h with hless heq hgreater
    · cases h
    · cases h
    · simp [hgreater]
  · have htype := dataType_eq_of_cmp? h
    rw [cmp?_eq_compare htype hf] at h
    have hless : compare w.rank v.rank = .lt := Std.OrientedCmp.gt_iff_lt.1 (Option.some.inj h)
    rw [cmp?_eq_compare htype.symm (htype ▸ hf), hless]
    simp

end Value

/-! ## Types of paths -/

/-- What ends at a reference may be null. -/
theorem Route.nullable_of_dataType? {S : Schema} {e : S.Entity} {r : Route S e}
    (h : r.dataType? = none) : r.nullable = true := by
  induction r with
  | field f => cases h
  | reference navigate => rfl
  | through navigate rest ih => exact ih h

variable {S : Schema} {e : S.Entity} {path : Path S e}

/-! ## Comparisons -/

namespace Comparison

/-- Whether a comparison is well-typed for the path that its target denotes. -/
structure WellTypedAt (c : Comparison) (path : Path S e) : Prop where
  /-- The path ends at the type that the comparison states. -/
  dataType : path.dataType? = c.dataType
  /-- The path may be null exactly when the comparison says so. -/
  nullable : path.nullable = c.nullable
  /-- A reference is only asked whether it is null. -/
  reference : c.dataType = none →
    (c.operator = .isNull ∨ c.operator = .isNotNull) ∧ c.values = []
  /-- Only an ordered type is asked for an order. -/
  ordered : c.operator.isOrdering → ∃ t, c.dataType = some t ∧ t.isOrdered
  /-- Only strings are compared with patterns. -/
  like : c.operator = .like → c.dataType = some .string
  /-- There are as many values as the operator takes. -/
  count : c.operator.arity.accepts c.values.length
  /-- The values have the type of the property. -/
  values : ∀ v ∈ c.values, c.dataType = some v.dataType
  /-- The first of two bounds is not greater than the second. -/
  bounds : c.operator = .between →
    ∃ low high, c.values = [low, high] ∧ low.cmp? high ≠ some .gt
  /-- What an item holds at the path has the type of the property. -/
  read : ∀ x v, path.read x = some v → c.dataType = some v.dataType
  /-- Floats aside, what an item holds is ordered with every value. -/
  comparable : c.dataType ≠ some .float →
    ∀ x v, path.read x = some v → ∀ w ∈ c.values, ∃ o, v.cmp? w = some o

/-- Whether a comparison is well-typed for an entity. -/
def WellTyped (S : Schema) (e : S.Entity) (c : Comparison) : Prop :=
  ∃ path : Path S e, S.resolve e c.target = .ok path ∧ c.WellTypedAt path

/-- Values of the type of the property can be compared with what an item holds there. -/
theorem comparable_of_values {c : Comparison} (hpath : path.dataType? = c.dataType)
    (hvalues : ∀ v ∈ c.values, c.dataType = some v.dataType) (hf : c.dataType ≠ some .float)
    {x : S.Item e} {v : Value} (hread : path.read x = some v) {w : Value} (hw : w ∈ c.values) :
    ∃ o, v.cmp? w = some o := by
  have hv : c.dataType = some v.dataType := hpath ▸ Path.dataType?_of_read hread
  have htype : v.dataType = w.dataType := Option.some.inj (hv.symm.trans (hvalues w hw))
  exact ⟨_, Value.cmp?_eq_compare htype fun h => hf (hv.trans (congrArg some h))⟩

end Comparison

namespace Filter

variable {wildcard : Option Char} {c : Criterion} {comparison : Comparison}
  {test : S.Item e → Bool}

/-! ## Compiling -/

theorem dataType_of_convert {t : DataType} {l : Literal} {v : Value}
    (h : convert path t l = .ok v) : v.dataType = t := by
  unfold convert at h
  split at h
  · rw [← Except.ok.inj h]; rfl
  · split at h
    · rename_i w hw
      rw [← Except.ok.inj h]
      exact Value.dataType_of_coerce? hw
    · cases h

theorem mem_sortBounds {vs : List Value} {v : Value} : v ∈ sortBounds vs ↔ v ∈ vs := by
  unfold sortBounds
  split
  · split
    · simp [or_comm]
    · rfl
  · rfl

/-- Of two bounds the first is not greater than the second. -/
theorem exists_bounds {vs : List Value} (h : vs.length = 2) :
    ∃ low high, sortBounds vs = [low, high] ∧ low.cmp? high ≠ some .gt := by
  obtain ⟨a, b, rfl⟩ := List.length_eq_two.1 h
  rw [sortBounds]
  split
  · rename_i hgreater
    refine ⟨b, a, rfl, ?_⟩
    rw [Ne, ← Value.isGreater_iff]
    exact Value.isGreater_asymm hgreater
  · rename_i hgreater
    refine ⟨a, b, rfl, ?_⟩
    rwa [Ne, ← Value.isGreater_iff]

/-- The bounds of a range are put in order, and all other values stay as they are. -/
theorem ordered_values {op : Operator} {converted values : List Value}
    (h : (if op = .between then sortBounds converted else converted) = values) :
    values.length = converted.length ∧ (∀ v ∈ values, v ∈ converted) ∧
      (op = .between → converted.length = 2 →
        ∃ low high, values = [low, high] ∧ low.cmp? high ≠ some .gt) := by
  split at h
  · subst h
    exact ⟨length_sortBounds converted, fun v hv => mem_sortBounds.1 hv,
      fun _ hcount => exists_bounds hcount⟩
  · rename_i hop
    subst h
    exact ⟨rfl, fun v hv => hv, fun hbetween => absurd hbetween hop⟩

theorem compileReference_wellTyped (hpath : S.resolve e c.target = .ok path)
    (htype : path.dataType? = none) (h : compileReference path c = .ok (comparison, test)) :
    comparison.WellTyped S e := by
  obtain ⟨harity, rfl, -⟩ := compileReference_eq_ok.1 h
  have hnull := Operator.isNull_or_isNotNull harity
  refine ⟨path, hpath, ?_⟩
  constructor
  case dataType => exact htype
  case nullable => exact Route.nullable_of_dataType? htype
  case reference => exact fun _ => ⟨hnull, rfl⟩
  case ordered =>
    intro hordering
    rcases hnull with hop | hop <;> rw [hop] at hordering <;> cases hordering
  case like =>
    intro (hlike : c.operator = .like)
    rw [hlike] at harity
    cases harity
  case count => rw [harity]; rfl
  case values => exact fun v hv => (List.not_mem_nil hv).elim
  case bounds =>
    intro (hbetween : c.operator = .between)
    rw [hbetween] at harity
    cases harity
  case read => exact fun x v hread => htype.symm.trans (Path.dataType?_of_read hread)
  case comparable => exact fun _ _ _ _ w hw => (List.not_mem_nil hw).elim

theorem compileField_wellTyped {t : DataType} (hpath : S.resolve e c.target = .ok path)
    (htype : path.dataType? = some t)
    (h : compileField wildcard path t c = .ok (comparison, test)) :
    comparison.WellTyped S e := by
  obtain ⟨⟨hordered, hstring⟩, converted, hconverted, values, hordering, rfl, rfl⟩ :=
    compileField_eq_ok.1 h
  obtain ⟨hlength, hmem, hbounds⟩ := ordered_values hordering
  have hcount : c.operator.arity.accepts converted.length := hconverted.length_eq ▸ c.accepted
  have hvalues : ∀ v ∈ values, some t = some v.dataType := by
    intro v hv
    obtain ⟨l, -, hl⟩ := forall₂_mem_right hconverted v (hmem v hv)
    rw [dataType_of_convert hl]
  refine ⟨path, hpath, ?_⟩
  constructor
  case dataType => exact htype
  case nullable => rfl
  case reference =>
    intro hnone
    cases hnone
  case ordered => exact fun hop => ⟨t, rfl, hordered hop⟩
  case like => exact fun hlike => congrArg some (hstring hlike)
  case count => exact hlength ▸ hcount
  case values => exact hvalues
  case bounds =>
    intro (hbetween : c.operator = .between)
    rw [hbetween] at hcount
    exact hbounds hbetween (by simpa [Operator.arity, Arity.accepts] using hcount)
  case read => exact fun x v hread => htype.symm.trans (Path.dataType?_of_read hread)
  case comparable =>
    intro hf x v hread w hw
    exact Comparison.comparable_of_values htype hvalues hf hread hw

/-- A criterion is compiled to a comparison that is well-typed. -/
theorem compile_wellTyped (h : compile (S := S) (e := e) wildcard c = .ok (comparison, test)) :
    comparison.WellTyped S e := by
  rw [compile] at h
  obtain ⟨path, hpath, h⟩ := bind_eq_ok.1 h
  split at h
  · rename_i htype
    exact compileReference_wellTyped hpath htype h
  · rename_i t htype
    exact compileField_wellTyped hpath htype h

/-! ## Built filters -/

/-- The filters that builders, each with its own wildcard, can give for an entity: the filter
    that every item passes, those of criteria, and conjunctions of these. -/
inductive Combined : Filter S e → Prop
  | all : Combined .all
  | build {wildcard : Option Char} {criteria : List Criterion} {f : Filter S e} :
    build wildcard criteria = .ok f → Combined f
  | and {f g : Filter S e} : Combined f → Combined g → Combined (f.and g)

/-- Whether all comparisons of a filter are well-typed. -/
def WellTyped (f : Filter S e) : Prop := ∀ c ∈ f.expression.comparisons, c.WellTyped S e

theorem wellTyped_all : (all : Filter S e).WellTyped := fun _ hc => nomatch hc

theorem WellTyped.and {f g : Filter S e} (hf : f.WellTyped) (hg : g.WellTyped) :
    (f.and g).WellTyped := by
  intro c hc
  rw [comparisons_and, List.mem_append] at hc
  rcases hc with hc | hc
  · exact hf c hc
  · exact hg c hc

/-- One more criterion adds a comparison that is well-typed. -/
theorem WellTyped.addCriterion {f g : Filter S e} (hf : f.WellTyped)
    (h : f.addCriterion wildcard c = .ok g) : g.WellTyped := by
  obtain ⟨⟨comparison, test⟩, hcompile, h⟩ := bind_eq_ok.1 h
  rw [← pure_eq_ok.1 h]
  have hone : WellTyped (⟨.compare comparison, [test]⟩ : Filter S e) := by
    intro c hc
    rw [List.mem_singleton.1 hc]
    exact compile_wellTyped hcompile
  exact hf.and hone

/-- **Filters that are put together are well-typed.**  Every comparison of every filter that
    builders and conjunctions give resolves to a path of the type that it states; the operator
    is one that this type supports, it has as many values as it takes, and they have that type;
    so has what items hold there, which outside of floats makes all orders defined. -/
theorem Combined.wellTyped {f : Filter S e} (h : f.Combined) :
    ∀ c ∈ f.expression.comparisons, c.WellTyped S e := by
  have hwell : f.WellTyped := by
    induction h with
    | all => exact wellTyped_all
    | build h => exact foldlM_invariant (fun _ _ _ hf h => hf.addCriterion h) wellTyped_all h
    | and _ _ hf hg => exact hf.and hg
  exact hwell

/-- The age between bounds in the wrong order, from two builders: the bounds are swapped. -/
theorem wellTyped_ages : ∃ f : Filter ages (), f.Combined ∧ f.expression.comparisons =
      [⟨ageBetween.target, some .integer, true, .between, [.integer 18, .integer 30]⟩,
        ⟨ageBetween.target, some .integer, true, .between, [.integer 18, .integer 30]⟩] ∧
    ∀ c ∈ f.expression.comparisons, c.WellTyped ages () := by
  have hcomparisons (wildcard : Option Char) :
      (build (S := ages) (e := ()) wildcard [ageBetween]).map (·.expression.comparisons) =
        .ok [⟨ageBetween.target, some .integer, true, .between, [.integer 18, .integer 30]⟩] := rfl
  obtain ⟨f, hf, hfs⟩ := map_eq_ok.1 (hcomparisons none)
  obtain ⟨g, hg, hgs⟩ := map_eq_ok.1 (hcomparisons (some '*'))
  have hcombined : (f.and g).Combined := .and (.build hf) (.build hg)
  refine ⟨f.and g, hcombined, (comparisons_and f g).trans ?_, hcombined.wellTyped⟩
  exact congrArg₂ (· ++ ·) hfs hgs

end Filter

end ResourceQuery
