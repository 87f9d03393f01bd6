/-
  Resource queries — every position has its value.

  * `satisfiesAt_eq`, `fieldProbe_eq`: for as many values as the operator takes, what takes them
    by their positions finds them all.
  * `compileAt_related`: so one criterion is compiled by positions as it is compiled otherwise.
  * `buildAt_eq`: and criteria are built in the same way, without a position ever missing.
-/
import ResourceQuery.Filter.Positions
import ResourceQuery.Proofs.Filter.Comparison

namespace ResourceQuery

namespace Filter

open Outcome

variable {S : Schema} {e : S.Entity} {wildcard : Option Char} {path : Path S e}

/-! ## Probes -/

theorem satisfiesAt_eq {actual : Value} {op : Operator} {values : List Value}
    (h : op.arity.accepts values.length) :
    satisfiesAt actual values op = .ok (satisfies actual op values) := by
  by_cases hone : op.arity = .one
  · obtain ⟨v, rfl⟩ := Operator.exists_single hone h
    cases op <;> first | rfl | cases hone
  by_cases htwo : op = .between
  · obtain ⟨low, high, rfl⟩ := Operator.exists_pair htwo h
    subst htwo
    show (if actual.isAtLeast low then .ok (actual.isAtMost high) else .ok false) =
      Except.ok (actual.isAtLeast low && actual.isAtMost high)
    cases actual.isAtLeast low <;> rfl
  cases op with
  | oneOf => rfl
  | noneOf => rfl
  | isNull => rfl
  | isNotNull => rfl
  | between => exact absurd rfl htwo
  | _ => exact absurd rfl hone

theorem comparisonProbe_eq {op : Operator} {values : List Value}
    (h : op.arity.accepts values.length) :
    comparisonProbe path op values = .ofTest (comparisonTest path op values) := by
  funext x
  rw [comparisonProbe, Probe.ofTest, comparisonTest]
  cases path.read x with
  | none => rfl
  | some actual => exact satisfiesAt_eq h

theorem fieldProbe_eq {t : DataType} {op : Operator} {values : List Value}
    (h : op.arity.accepts values.length) :
    fieldProbe wildcard path t op values = .ok (.ofTest (fieldTest wildcard path t op values)) := by
  by_cases hlike : op = .like
  · subst hlike
    obtain ⟨v, rfl⟩ := Operator.exists_single rfl h
    rfl
  by_cases hzero : op.arity = .zero
  · cases op <;> first | rfl | cases hzero
  have hprobe : fieldProbe wildcard path t op values = .ok (comparisonProbe path op values) := by
    cases op <;> first | rfl | exact absurd rfl hlike | exact absurd rfl hzero
  rw [hprobe, fieldTest_eq_comparisonTest hlike hzero, comparisonProbe_eq h]

theorem arrangeAt_eq {op : Operator} {values : List Value} (h : op.arity.accepts values.length) :
    arrangeAt op values = .ok (if op = .between then sortBounds values else values) := by
  rw [arrangeAt]
  split
  · rename_i hop
    obtain ⟨low, high, rfl⟩ := Operator.exists_pair hop h
    rfl
  · rfl

/-! ## Building -/

/-- Whether something has halted with an error, and not at a position without a value. -/
def Halt.Is (halt : Halt) (error : Error) : Prop := halt = .error error

/-- Whether a comparison comes with the probe of the test it otherwise comes with. -/
def Probes (compiled : Comparison × Probe S e) (tested : Comparison × (S.Item e → Bool)) : Prop :=
  compiled.1 = tested.1 ∧ compiled.2 = .ofTest tested.2

theorem related_mapError {α : Type} (x : Except Error α) :
    Related Halt.Is Eq (x.mapError .error) x := by
  cases x with
  | error error => exact .error rfl
  | ok a => exact .ok rfl

theorem compileFieldAt_related {t : DataType} {c : Criterion} :
    Related Halt.Is Probes (compileFieldAt wildcard path t c) (compileField wildcard path t c) := by
  rw [compileFieldAt, compileField]
  split
  · exact .error rfl
  split
  · exact .error rfl
  rcases hc : c.literals.mapM (convert path t) with error | converted
  · exact .error rfl
  have hcount : c.operator.arity.accepts converted.length := by
    rw [← (mapM_eq_ok.1 hc).length_eq]
    exact c.accepted
  show Related Halt.Is Probes (arrangeAt c.operator converted >>= _) (pure (_, _))
  rw [arrangeAt_eq hcount]
  show Related Halt.Is Probes (fieldProbe wildcard path t c.operator _ >>= _) (pure (_, _))
  rw [fieldProbe_eq (by rwa [length_arranged])]
  exact .ok ⟨rfl, rfl⟩

theorem compileReferenceAt_related {c : Criterion} :
    Related Halt.Is Probes (compileReferenceAt path c) (compileReference path c) := by
  rw [compileReferenceAt]
  cases compileReference path c with
  | error error => exact .error rfl
  | ok compiled => exact .ok ⟨rfl, rfl⟩

/-- Compiling a criterion by positions is compiling it. -/
theorem compileAt_related {c : Criterion} :
    Related Halt.Is Probes (compileAt (S := S) (e := e) wildcard c) (compile wildcard c) := by
  rw [compileAt, compile]
  refine (related_mapError _).bind ?_
  rintro path _ rfl
  cases path.dataType? with
  | none => exact compileReferenceAt_related
  | some t => exact compileFieldAt_related

/-- **No position is without its value.**  Criteria that are built by positions give what they
    otherwise give: the same expression, with probes that find all their values, or the same
    error. -/
theorem buildAt_eq (criteria : List Criterion) :
    buildAt wildcard criteria = match (build wildcard criteria : Except Error (Filter S e)) with
      | .ok f => .ok (f.expression, f.tests.map .ofTest)
      | .error error => .error (.error error) := by
  have hrelated : Related Halt.Is
      (fun (built : Expression × List (Probe S e)) f =>
        built = (f.expression, f.tests.map .ofTest))
      (buildAt wildcard criteria) (build wildcard criteria) := by
    refine Related.foldlM (R := Eq) ?_ (List.forall₂_same.2 fun _ _ => rfl) rfl
    rintro _ f c _ rfl rfl
    refine compileAt_related.bind ?_
    rintro ⟨comparison, probe⟩ ⟨comparison', test⟩ ⟨hcomparison, hprobe⟩
    obtain rfl : comparison = comparison' := hcomparison
    obtain rfl : probe = .ofTest test := hprobe
    exact .ok (by simp)
  generalize (build wildcard criteria : Except Error (Filter S e)) = outcome at hrelated ⊢
  generalize buildAt wildcard criteria = outcomeAt at hrelated ⊢
  rcases hrelated with hok | herror
  · exact congrArg Except.ok hok
  · exact congrArg Except.error herror

end Filter

end ResourceQuery
