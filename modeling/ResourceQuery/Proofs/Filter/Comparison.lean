/-
  Resource queries — tests and comparisons.

  A criterion is compiled twice: as a test, and as a comparison that is read on its own.

  * `satisfies_iff_relates`: for as many values as the operator takes, the test of a value is
    what the operator says about it.
  * `Comparison.Describes`: a comparison holds for the items that a test accepts.
  * `compile_describes`: the comparison of a criterion describes the test of the criterion.
-/
import ResourceQuery.Filter.Meaning
import ResourceQuery.Proofs.Outcome

namespace ResourceQuery

open Outcome

variable {S : Schema} {e : S.Entity}

/-! ## Values -/

namespace Value

theorem isGreater_iff {a b : Value} : a.isGreater b ↔ a.cmp? b = some .gt := by
  rw [isGreater, beq_iff_eq]

theorem isLess_iff {a b : Value} : a.isLess b ↔ a.cmp? b = some .lt := by
  rw [isLess, beq_iff_eq]

theorem isAtLeast_iff {a b : Value} :
    a.isAtLeast b ↔ a.cmp? b = some .gt ∨ a.cmp? b = some .eq := by
  rw [isAtLeast, Bool.or_eq_true, beq_iff_eq, beq_iff_eq]

theorem isAtMost_iff {a b : Value} :
    a.isAtMost b ↔ a.cmp? b = some .lt ∨ a.cmp? b = some .eq := by
  rw [isAtMost, Bool.or_eq_true, beq_iff_eq, beq_iff_eq]

/-- Everything has a reading as a string. -/
theorem exists_string_of_coerce? {v w : Value} (h : v.coerce? .string = some w) :
    ∃ t, w = .string t := by
  cases v <;> simp [coerce?, dataType, parseAs?] at h <;> exact ⟨_, h.symm⟩

end Value

/-! ## Operators and their values -/

namespace Operator

theorem exists_single {op : Operator} {values : List Value} (hop : op.arity = .one)
    (hcount : op.arity.accepts values.length) : ∃ v, values = [v] := by
  rw [hop] at hcount
  exact List.length_eq_one_iff.1 (by simpa [Arity.accepts] using hcount)

theorem exists_pair {op : Operator} {values : List Value} (hop : op = .between)
    (hcount : op.arity.accepts values.length) : ∃ low high, values = [low, high] := by
  subst hop
  exact List.length_eq_two.1 (by simpa [arity, Arity.accepts] using hcount)

theorem isNull_or_isNotNull {op : Operator} (hop : op.arity = .zero) :
    op = .isNull ∨ op = .isNotNull := by
  cases op with
  | isNull => exact .inl rfl
  | isNotNull => exact .inr rfl
  | _ => cases hop

end Operator

namespace Filter

/-! ## Tests of values -/

theorem satisfies_iff_relates {wildcard : Option Char} {actual : Value} {op : Operator}
    {values : List Value} (hlike : op ≠ .like) (harity : op.arity ≠ .zero)
    (hcount : op.arity.accepts values.length) :
    satisfies actual op values ↔ op.Relates wildcard actual values := by
  cases op with
  | isNull => exact absurd rfl harity
  | isNotNull => exact absurd rfl harity
  | like => exact absurd rfl hlike
  | oneOf => simp [satisfies, Operator.Relates, List.any_eq_true]
  | noneOf => simp [satisfies, Operator.Relates]
  | between =>
    obtain ⟨low, high, rfl⟩ := Operator.exists_pair rfl hcount
    simp [satisfies, Operator.Relates, Value.isAtLeast_iff, Value.isAtMost_iff]
  | _ =>
    obtain ⟨v, rfl⟩ := Operator.exists_single rfl hcount
    simp [satisfies, Operator.Relates, Value.isGreater_iff, Value.isAtLeast_iff,
      Value.isLess_iff, Value.isAtMost_iff]

theorem comparisonTest_iff {path : Path S e} {op : Operator} {values : List Value}
    {x : S.Item e} :
    comparisonTest path op values x ↔ ∃ actual, path.read x = some actual ∧
      satisfies actual op values := by
  rw [comparisonTest]
  cases path.read x <;> simp

theorem likeTestAt_iff {wildcard : Option Char} {path : Path S e} {pattern : Text}
    {x : S.Item e} :
    likeTestAt wildcard path [.string pattern] x ↔ ∃ actual, path.read x = some actual ∧
      Operator.Relates wildcard actual .like [.string pattern] := by
  rw [likeTestAt]
  cases path.read x with
  | none => simp
  | some actual => cases actual <;> simp [Value.text?, Operator.Relates]

/-! ## Tests for null -/

theorem nullTest_iff {path : Path S e} {unset : Option Value} {wanted : Bool} {x : S.Item e} :
    nullTest path unset wanted x ↔
      ((path.isNull x ∨ ∃ d actual, unset = some d ∧ path.read x = some actual ∧ actual.same d) ↔
        wanted) := by
  have hunset : (unset.any fun d => (path.read x).any (·.same d)) ↔
      ∃ d actual, unset = some d ∧ path.read x = some actual ∧ actual.same d := by
    cases unset <;> cases path.read x <;> simp
  rw [nullTest, beq_iff_eq, Bool.eq_iff_iff, Bool.or_eq_true, hunset]

variable {target : Target} {t : DataType} {op : Operator} {values : List Value}

/-- What counts as null for a field, as a comparison says it. -/
theorem isUnset_field {path : Path S e} {x : S.Item e} :
    Comparison.IsUnset ⟨target, some t, path.nullable, op, values⟩ path x ↔
      path.isNull x ∨ ∃ d actual, (if path.nullable then none else some t.default) = some d ∧
        path.read x = some actual ∧ actual.same d := by
  refine or_congr_right ?_
  cases path.nullable with
  | true => simp
  | false =>
    constructor
    · rintro ⟨-, _, actual, ⟨⟩, hread, hsame⟩
      exact ⟨_, actual, rfl, hread, hsame⟩
    · rintro ⟨_, actual, ⟨⟩, hread, hsame⟩
      exact ⟨rfl, t, actual, rfl, hread, hsame⟩

/-- At the end of a reference only what is absent counts as null. -/
theorem isUnset_reference {path : Path S e} {x : S.Item e} :
    Comparison.IsUnset ⟨target, none, true, op, values⟩ path x ↔ path.isNull x := by
  simp [Comparison.IsUnset]

/-! ## Criteria -/

/-- Operators that compare with values, patterns aside, are tested as comparisons. -/
theorem fieldTest_eq_comparisonTest {wildcard : Option Char} {path : Path S e}
    (hlike : op ≠ .like) (harity : op.arity ≠ .zero) :
    fieldTest wildcard path t op values = comparisonTest path op values := by
  cases op <;> first | rfl | exact absurd rfl hlike | exact absurd rfl harity

/-- The test of a field is what the comparison with the same parts says. -/
theorem fieldTest_iff {wildcard : Option Char} {path : Path S e} {x : S.Item e}
    (hcount : op.arity.accepts values.length)
    (hlike : op = .like → ∃ pattern, values = [.string pattern]) :
    fieldTest wildcard path t op values x ↔
      Comparison.HoldsAt wildcard ⟨target, some t, path.nullable, op, values⟩ path x := by
  by_cases hnull : op.arity = .zero
  · cases op <;> cases hnull
    · show nullTest path _ true x ↔ Comparison.IsUnset _ path x
      rw [nullTest_iff, isUnset_field, iff_true_right rfl]
    · show nullTest path _ false x ↔ ¬ Comparison.IsUnset _ path x
      rw [nullTest_iff, isUnset_field]
      simp
  · by_cases hop : op = .like
    · subst hop
      obtain ⟨pattern, rfl⟩ := hlike rfl
      exact likeTestAt_iff
    · have hrelates : fieldTest wildcard path t op values x ↔
          ∃ actual, path.read x = some actual ∧ op.Relates wildcard actual values := by
        have hvalue (actual : Value) : satisfies actual op values ↔
            op.Relates wildcard actual values := satisfies_iff_relates hop hnull hcount
        rw [fieldTest_eq_comparisonTest hop hnull, comparisonTest_iff]
        simp only [hvalue]
      rw [hrelates]
      cases op <;> first | rfl | exact absurd rfl hnull

end Filter

/-! ## Compiling -/

namespace Comparison

/-- Whether a comparison holds for exactly the items that a test accepts. -/
def Describes (wildcard : Option Char) (c : Comparison) (test : S.Item e → Bool) : Prop :=
  ∀ x, test x ↔ c.Holds wildcard x

theorem holds_iff {wildcard : Option Char} {c : Comparison} {path : Path S e}
    (h : S.resolve e c.target = .ok path) {x : S.Item e} :
    c.Holds wildcard x ↔ c.HoldsAt wildcard path x := by
  constructor
  · rintro ⟨path', h', hx⟩
    obtain rfl : path = path' := Except.ok.inj (h.symm.trans h')
    exact hx
  · exact fun hx => ⟨path, h, hx⟩

end Comparison

namespace Filter

variable {wildcard : Option Char} {path : Path S e} {c : Criterion} {comparison : Comparison}
  {test : S.Item e → Bool}

theorem length_sortBounds (values : List Value) : (sortBounds values).length = values.length := by
  unfold sortBounds
  split
  · split <;> rfl
  · rfl

theorem length_arranged (op : Operator) (values : List Value) :
    (if op = .between then sortBounds values else values).length = values.length := by
  split
  · exact length_sortBounds values
  · rfl

theorem exists_string_of_convert {l : Literal} {v : Value} (h : convert path .string l = .ok v) :
    ∃ t, v = .string t := by
  unfold convert at h
  split at h
  · exact ⟨_, (Except.ok.inj h).symm⟩
  · split at h
    · rename_i w hw
      rw [← Except.ok.inj h]
      exact Value.exists_string_of_coerce? hw
    · cases h

/-- The one literal of a like criterion is converted to a string. -/
theorem exists_pattern_of_like {values : List Value} (hlike : c.operator = .like)
    (h : List.Forall₂ (fun l v => convert path .string l = .ok v) c.literals values) :
    ∃ pattern, values = [.string pattern] := by
  obtain ⟨l, hl⟩ : ∃ l, c.literals = [l] := by
    have hcount := c.accepted
    rw [hlike] at hcount
    refine List.length_eq_one_iff.1 ?_
    simpa [Operator.arity, Arity.accepts] using hcount
  rw [hl, List.forall₂_cons_left_iff] at h
  obtain ⟨v, vs, hv, hvs, rfl⟩ := h
  obtain rfl := List.forall₂_nil_left_iff.1 hvs
  obtain ⟨pattern, rfl⟩ := exists_string_of_convert hv
  exact ⟨pattern, rfl⟩

/-- Whether a type supports an operator: only some types are ordered, and only strings are compared
    with patterns. -/
def Supports (t : DataType) (op : Operator) : Prop :=
  (op.isOrdering → t.isOrdered) ∧ (op = .like → t = .string)

/-- Whether literals are converted to values of the type of a property. -/
def Converts (path : Path S e) (t : DataType) : List Literal → List Value → Prop :=
  List.Forall₂ fun l v => convert path t l = .ok v

/-- When a criterion on a field is compiled: the type supports the operator, and every literal is
    converted. -/
theorem compileField_eq_ok {t : DataType} :
    compileField wildcard path t c = .ok (comparison, test) ↔
      Supports t c.operator ∧ ∃ converted, Converts path t c.literals converted ∧
        ∃ values, (if c.operator = .between then sortBounds converted else converted) = values ∧
          comparison = ⟨c.target, some t, path.nullable, c.operator, values⟩ ∧
          test = fieldTest wildcard path t c.operator values := by
  rw [compileField]
  split
  · rename_i hordered
    rw [Bool.and_eq_true, Bool.not_eq_true'] at hordered
    refine ⟨fun h => (nomatch h), fun ⟨hsupports, _⟩ => ?_⟩
    rw [hsupports.1 hordered.1] at hordered
    cases hordered.2
  split
  · rename_i hstring
    exact ⟨fun h => (nomatch h), fun ⟨hsupports, _⟩ => absurd (hsupports.2 hstring.1) hstring.2⟩
  rename_i hordered hstring
  have hsupports : Supports t c.operator := by
    constructor
    · intro hordering
      simpa [hordering] using hordered
    · intro hlike
      by_contra hne
      exact hstring ⟨hlike, hne⟩
  rw [and_iff_right hsupports, bind_eq_ok]
  refine exists_congr fun converted => ?_
  rw [mapM_eq_ok, Converts, pure_eq_ok, Prod.mk.injEq, exists_eq_left', eq_comm (a := comparison),
    eq_comm (a := test)]

theorem compileField_describes {t : DataType} (hpath : S.resolve e c.target = .ok path)
    (h : compileField wildcard path t c = .ok (comparison, test)) :
    comparison.Describes wildcard test := by
  obtain ⟨⟨-, hstring⟩, converted, hconverted, _, rfl, rfl, rfl⟩ := compileField_eq_ok.1 h
  intro x
  rw [Comparison.holds_iff hpath]
  refine fieldTest_iff ?_ fun hlike => ?_
  · rw [length_arranged, ← hconverted.length_eq]
    exact c.accepted
  · rw [if_neg (by rw [hlike]; simp)]
    obtain rfl := hstring hlike
    exact exists_pattern_of_like hlike hconverted

/-- When a criterion on a reference is compiled: its operator takes no value. -/
theorem compileReference_eq_ok :
    compileReference path c = .ok (comparison, test) ↔ c.operator.arity = .zero ∧
      comparison = ⟨c.target, none, true, c.operator, []⟩ ∧
      test = nullTest path none (c.operator = .isNull) := by
  rw [compileReference]
  split
  · rename_i harity
    rw [and_iff_right harity, Except.ok.injEq, Prod.mk.injEq, eq_comm (a := comparison),
      eq_comm (a := test)]
  · rename_i harity
    exact ⟨fun h => (nomatch h), fun h => absurd h.1 harity⟩

theorem compileReference_describes (hpath : S.resolve e c.target = .ok path)
    (h : compileReference path c = .ok (comparison, test)) :
    comparison.Describes wildcard test := by
  obtain ⟨harity, rfl, rfl⟩ := compileReference_eq_ok.1 h
  intro x
  rw [Comparison.holds_iff hpath, nullTest_iff]
  have hunset {op : Operator} :
      Comparison.IsUnset ⟨c.target, none, true, op, []⟩ path x ↔ path.isNull x :=
    isUnset_reference
  rcases Operator.isNull_or_isNotNull harity with hop | hop <;> rw [hop]
  · show _ ↔ Comparison.IsUnset _ path x
    rw [hunset]
    simp
  · show _ ↔ ¬ Comparison.IsUnset _ path x
    rw [hunset]
    simp

/-- The comparison and the test of a criterion say the same of every item. -/
theorem compile_describes (h : compile (S := S) (e := e) wildcard c = .ok (comparison, test)) :
    comparison.Describes wildcard test := by
  rw [compile] at h
  obtain ⟨path, hpath, h⟩ := bind_eq_ok.1 h
  split at h
  · exact compileReference_describes hpath h
  · exact compileField_describes hpath h

end Filter

end ResourceQuery
