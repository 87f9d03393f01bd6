/-
  Resource queries — conjunctions of filters.

  * `Expression.and_assoc`, `Expression.comparisons_and`: conjunctions of expressions can be
    grouped in any way, and their comparisons are those of the two sides, in order.
  * `Filter.and_assoc`, `Filter.all_and`, `Filter.and_all`: filters with `and` form a monoid.
  * `foldlM_addCriterion_eq`: adding criteria to a filter is the conjunction with the filter that
    is built from them alone.
  * `build_append`: so criteria in a row are built into the conjunction of what their two parts
    are built into.
-/
import ResourceQuery.Filter.Builder
import ResourceQuery.Proofs.Outcome

namespace ResourceQuery

open Outcome

/-! ## Expressions -/

namespace Expression

theorem always_and (b : Expression) : always.and b = b := by rw [and]

theorem and_always (a : Expression) : a.and always = a := by cases a <;> rfl

/-- The parts that an expression adds to a conjunction. -/
def parts : Expression → List Expression
  | always => []
  | compare c => [compare c]
  | all ps => ps

theorem and_eq_all {a b : Expression} (ha : a ≠ always) (hb : b ≠ always) :
    a.and b = all (a.parts ++ b.parts) := by
  cases a with
  | always => exact absurd rfl ha
  | compare c =>
    cases b with
    | always => exact absurd rfl hb
    | compare d => rfl
    | all qs => rfl
  | all ps =>
    cases b with
    | always => exact absurd rfl hb
    | compare d => rfl
    | all qs => rfl

/-- Conjunctions can be grouped in any way. -/
theorem and_assoc (a b c : Expression) : (a.and b).and c = a.and (b.and c) := by
  by_cases ha : a = always
  · rw [ha, always_and, always_and]
  by_cases hb : b = always
  · rw [hb, and_always, always_and]
  by_cases hc : c = always
  · rw [hc, and_always, and_always]
  -- none of the three always holds, so all conjunctions are lists of parts
  have hne (ps : List Expression) : all ps ≠ always := Expression.noConfusion
  calc (a.and b).and c = all ((a.parts ++ b.parts) ++ c.parts) := by
        rw [and_eq_all ha hb, and_eq_all (hne _) hc]; rfl
    _ = all (a.parts ++ (b.parts ++ c.parts)) := by rw [List.append_assoc]
    _ = a.and (b.and c) := by rw [and_eq_all hb hc, and_eq_all ha (hne _)]; rfl

theorem comparisonsOf_append (ps qs : List Expression) :
    comparisonsOf (ps ++ qs) = comparisonsOf ps ++ comparisonsOf qs := by
  induction ps with
  | nil => rfl
  | cons p ps ih => rw [List.cons_append, comparisonsOf, comparisonsOf, ih, List.append_assoc]

theorem comparisonsOf_parts (a : Expression) : comparisonsOf a.parts = a.comparisons := by
  cases a with
  | always => rfl
  | compare c => rfl
  | all ps => rfl

/-- The comparisons of a conjunction are those of its two sides, in order. -/
theorem comparisons_and (a b : Expression) :
    (a.and b).comparisons = a.comparisons ++ b.comparisons := by
  by_cases ha : a = always
  · rw [ha, always_and]; rfl
  by_cases hb : b = always
  · rw [hb, and_always]; exact (List.append_nil _).symm
  rw [and_eq_all ha hb, comparisons, comparisonsOf_append, comparisonsOf_parts,
    comparisonsOf_parts]

end Expression

namespace Filter

variable {S : Schema} {e : S.Entity}

/-! ## Filters -/

theorem all_and (f : Filter S e) : all.and f = f := by
  rw [and, all, Expression.always_and, List.nil_append]

theorem and_all (f : Filter S e) : f.and all = f := by
  rw [and, all, Expression.and_always, List.append_nil]

theorem and_assoc (f g h : Filter S e) : (f.and g).and h = f.and (g.and h) := by
  simp only [and, Expression.and_assoc, List.append_assoc]

theorem comparisons_and (f g : Filter S e) :
    (f.and g).expression.comparisons = f.expression.comparisons ++ g.expression.comparisons :=
  Expression.comparisons_and _ _

/-! ## Building -/

variable {wildcard : Option Char}

/-- One more criterion is a conjunction with its own filter. -/
theorem addCriterion_eq (f : Filter S e) (c : Criterion) :
    f.addCriterion wildcard c = (addCriterion wildcard all c).map f.and := by
  rw [addCriterion, addCriterion]
  cases compile (S := S) (e := e) wildcard c with
  | error error => rfl
  | ok compiled =>
    show Except.ok _ = Except.ok (f.and ⟨Expression.always.and _, [] ++ _⟩)
    rw [Expression.always_and, List.nil_append]
    rfl

/-- Adding criteria to a filter is the conjunction with the filter that they are built into. -/
theorem foldlM_addCriterion_eq (f : Filter S e) (criteria : List Criterion) :
    criteria.foldlM (addCriterion wildcard) f = (build wildcard criteria).map f.and := by
  rw [build]
  induction criteria generalizing f with
  | nil =>
    show Except.ok f = Except.ok (f.and all)
    rw [and_all]
  | cons c criteria ih =>
    rw [List.foldlM_cons, List.foldlM_cons, addCriterion_eq f]
    cases addCriterion (S := S) (e := e) wildcard all c with
    | error error => rfl
    | ok g =>
      show criteria.foldlM (addCriterion wildcard) (f.and g) =
        (criteria.foldlM (addCriterion wildcard) g).map f.and
      rw [ih (f.and g), ih g]
      cases criteria.foldlM (addCriterion wildcard) (all : Filter S e) with
      | error error => rfl
      | ok h => exact congrArg Except.ok (and_assoc f g h)

/-- **Building takes lists of criteria to conjunctions.**  Criteria in a row are built exactly
    when their two parts are, into the conjunction of the two filters; otherwise the error is
    that of the first part which has one.  A conjunction has the comparisons of its sides in
    order and accepts what both accept; it can be grouped in any way, and the filter that every
    item passes leaves the other side as it is. -/
theorem build_append (wildcard : Option Char) :
    (∀ left right : List Criterion, (build wildcard (left ++ right) : Except Error (Filter S e)) =
        match (build wildcard left : Except Error (Filter S e)),
          (build wildcard right : Except Error (Filter S e)) with
        | .ok f, .ok g => .ok (f.and g)
        | .ok _, .error error => .error error
        | .error error, _ => .error error) ∧
      (∀ f g : Filter S e,
        (f.and g).expression.comparisons = f.expression.comparisons ++ g.expression.comparisons ∧
          ∀ x, (f.and g).accepts x = (f.accepts x && g.accepts x)) ∧
      (∀ f g h : Filter S e, (f.and g).and h = f.and (g.and h)) ∧
      ∀ f : Filter S e, all.and f = f ∧ f.and all = f := by
  refine ⟨?_, fun f g => ⟨comparisons_and f g, accepts_and f g⟩, and_assoc,
    fun f => ⟨all_and f, and_all f⟩⟩
  intro left right
  rw [build, List.foldlM_append, ← build]
  cases build (S := S) (e := e) wildcard left with
  | error error => rfl
  | ok f =>
    show right.foldlM (addCriterion wildcard) f = _
    rw [foldlM_addCriterion_eq f right]
    cases build (S := S) (e := e) wildcard right with
    | error error => rfl
    | ok g => rfl

end Filter

end ResourceQuery
