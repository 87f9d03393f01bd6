/-
  Resource queries — filters of one criterion.

  * `build_reference_eq_ok`, `build_field_eq_ok`: when a criterion on a reference or on a field is
    built, and into what.
  * `accepts_single`: such a filter accepts what its test accepts.
-/
import ResourceQuery.Proofs.Filter.Comparison
import ResourceQuery.Proofs.Filter.Conjunction

namespace ResourceQuery.Filter

open Outcome

variable {S : Schema} {e : S.Entity} {wildcard : Option Char} {c : Criterion} {f : Filter S e}
  {path : Path S e}

/-- The filter of one comparison and its test. -/
def single (comparison : Comparison) (test : S.Item e → Bool) : Filter S e :=
  ⟨.compare comparison, [test]⟩

@[simp] theorem accepts_single {comparison : Comparison} {test : S.Item e → Bool} {x : S.Item e} :
    (single comparison test).accepts x = test x := by
  simp [accepts, single]

theorem build_singleton_eq_ok : build wildcard [c] = .ok f ↔ ∃ comparison test,
    compile wildcard c = .ok (comparison, test) ∧ f = single comparison test := by
  have hadd : build wildcard [c] = addCriterion wildcard (all : Filter S e) c := by
    rw [build, List.foldlM_cons]
    cases addCriterion wildcard (all : Filter S e) c <;> rfl
  rw [hadd, addCriterion, bind_eq_ok, Prod.exists]
  refine exists₂_congr fun comparison test => and_congr_right fun _ => ?_
  show pure (⟨Expression.always.and (.compare comparison), [] ++ [test]⟩ : Filter S e) = _ ↔ _
  rw [pure_eq_ok, Expression.always_and, List.nil_append, eq_comm, single]

/-- What a criterion is compiled to is decided by what its path ends at. -/
theorem compile_of_resolve (hpath : S.resolve e c.target = .ok path) :
    compile wildcard c = match path.dataType? with
      | none => compileReference path c
      | some t => compileField wildcard path t c := by
  rw [compile, hpath]
  rfl

/-- A criterion on a reference is built when its operator takes no value. -/
theorem build_reference_eq_ok (hpath : S.resolve e c.target = .ok path)
    (htype : path.dataType? = none) :
    build wildcard [c] = .ok f ↔ c.operator.arity = .zero ∧
      f = single ⟨c.target, none, true, c.operator, []⟩
        (nullTest path none (c.operator = .isNull)) := by
  rw [build_singleton_eq_ok, compile_of_resolve hpath, htype]
  constructor
  · rintro ⟨comparison, test, h, rfl⟩
    obtain ⟨harity, rfl, rfl⟩ := compileReference_eq_ok.1 h
    exact ⟨harity, rfl⟩
  · rintro ⟨harity, rfl⟩
    exact ⟨_, _, compileReference_eq_ok.2 ⟨harity, rfl, rfl⟩, rfl⟩

/-- A criterion on a field is built when the type supports its operator and its literals can be
    converted. -/
theorem build_field_eq_ok {t : DataType} (hpath : S.resolve e c.target = .ok path)
    (htype : path.dataType? = some t) :
    build wildcard [c] = .ok f ↔
      Supports t c.operator ∧ ∃ converted, Converts path t c.literals converted ∧
        ∃ values, (if c.operator = .between then sortBounds converted else converted) = values ∧
          f = single ⟨c.target, some t, path.nullable, c.operator, values⟩
            (fieldTest wildcard path t c.operator values) := by
  rw [build_singleton_eq_ok, compile_of_resolve hpath, htype]
  constructor
  · rintro ⟨comparison, test, h, rfl⟩
    obtain ⟨hsupports, converted, hconverts, values, hvalues, rfl, rfl⟩ := compileField_eq_ok.1 h
    exact ⟨hsupports, converted, hconverts, values, hvalues, rfl⟩
  · rintro ⟨hsupports, converted, hconverts, values, hvalues, rfl⟩
    refine ⟨_, _, ?_, rfl⟩
    exact compileField_eq_ok.2 ⟨hsupports, converted, hconverts, values, hvalues, rfl, rfl⟩

end ResourceQuery.Filter
