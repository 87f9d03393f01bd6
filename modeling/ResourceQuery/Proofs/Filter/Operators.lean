/-
  Resource queries — laws of the operators.

  * `Value.same_iff_cmp?`, `Value.RankLE`: floats aside, equality is the middle of a total order,
    so two bounds in either order have the same values between them
    (`satisfies_between_sortBounds`).
  * `Filter.Builds`, `Filter.Admits`: whether a criterion of an operator and literals is built,
    and whether the filter that it is built into accepts an item.
  * `builds_iff`, `admits_iff_satisfies`: both in terms of the values that the literals are
    converted to.
  * `operatorLaws`: how the criteria of different operators on one property are related.
-/
import ResourceQuery.Proofs.Filter.Single
import ResourceQuery.Proofs.Filter.Typing
import ResourceQuery.Proofs.Query.Readers

namespace ResourceQuery

open Outcome

/-! ## Values -/

namespace Value

variable {v w u : Value}

/-- Values of one type other than floats denote the same when neither comes first. -/
theorem same_iff_cmp? (htype : v.dataType = w.dataType) (hf : v.dataType ≠ .float) :
    v.same w ↔ v.cmp? w = some .eq := by
  rw [same_iff_rank htype hf, cmp?_eq_compare htype hf, Option.some.injEq, Std.compare_eq_iff_eq]

/-- Whether the rank of a value is at most that of another. -/
def RankLE (v w : Value) : Prop := (compare v.rank w.rank).isLE

theorem RankLE.trans (hvw : v.RankLE w) (hwu : w.RankLE u) : v.RankLE u :=
  Std.TransCmp.isLE_trans hvw hwu

theorem rankLE_total (v w : Value) : v.RankLE w ∨ w.RankLE v := by
  have hswap : compare w.rank v.rank = (compare v.rank w.rank).swap := Std.OrientedCmp.eq_swap
  rw [RankLE, RankLE, hswap]
  cases compare v.rank w.rank <;> simp

theorem isAtMost_iff_rankLE (htype : v.dataType = w.dataType) (hf : v.dataType ≠ .float) :
    v.isAtMost w ↔ v.RankLE w := by
  rw [isAtMost_iff, cmp?_eq_compare htype hf, RankLE]
  cases compare v.rank w.rank <;> simp

theorem isAtLeast_iff_rankLE (htype : v.dataType = w.dataType) (hf : v.dataType ≠ .float) :
    v.isAtLeast w ↔ w.RankLE v := by
  have hswap : compare w.rank v.rank = (compare v.rank w.rank).swap := Std.OrientedCmp.eq_swap
  rw [isAtLeast_iff, cmp?_eq_compare htype hf, RankLE, hswap]
  cases compare v.rank w.rank <;> simp

theorem isGreater_iff_rankLE (htype : v.dataType = w.dataType) (hf : v.dataType ≠ .float) :
    v.isGreater w ↔ ¬ v.RankLE w := by
  rw [isGreater_iff, cmp?_eq_compare htype hf, RankLE]
  cases compare v.rank w.rank <;> simp

end Value

/-- Whether an operator compares values: it is no pattern, and not about null. -/
def Operator.IsComparison (op : Operator) : Prop := op ≠ .like ∧ op.arity ≠ .zero

instance (op : Operator) : Decidable op.IsComparison := inferInstanceAs (Decidable (_ ∧ _))

namespace Filter

/-- Between two bounds that are put in order lies what is at least the one and at most the other,
    whichever is which. -/
theorem satisfies_between_sortBounds {actual a b : Value} {t : DataType} (hf : t ≠ .float)
    (hactual : actual.dataType = t) (ha : a.dataType = t) (hb : b.dataType = t) :
    satisfies actual .between (sortBounds [a, b]) ↔
      actual.isAtLeast a ∧ actual.isAtMost b ∨ actual.isAtLeast b ∧ actual.isAtMost a := by
  have hfloat : actual.dataType ≠ .float := hactual ▸ hf
  have hatLeast {v : Value} (hv : v.dataType = t) : actual.isAtLeast v ↔ v.RankLE actual :=
    Value.isAtLeast_iff_rankLE (hactual.trans hv.symm) hfloat
  have hatMost {v : Value} (hv : v.dataType = t) : actual.isAtMost v ↔ actual.RankLE v :=
    Value.isAtMost_iff_rankLE (hactual.trans hv.symm) hfloat
  have hgreater : a.isGreater b ↔ ¬ a.RankLE b :=
    Value.isGreater_iff_rankLE (ha.trans hb.symm) (ha ▸ hf)
  rw [hatLeast ha, hatMost hb, hatLeast hb, hatMost ha, sortBounds]
  by_cases hle : a.RankLE b
  · -- what is between the bounds the other way round is so this way round too
    rw [if_neg (hgreater.not.2 (not_not.2 hle)), satisfies, Bool.and_eq_true, hatLeast ha,
      hatMost hb]
    constructor
    · exact .inl
    · rintro (h | ⟨hlow, hhigh⟩)
      · exact h
      · exact ⟨hle.trans hlow, hhigh.trans hle⟩
  · have hge : b.RankLE a := (a.rankLE_total b).resolve_left hle
    rw [if_pos (hgreater.2 hle), satisfies, Bool.and_eq_true, hatLeast hb, hatMost ha]
    constructor
    · exact .inr
    · rintro (⟨hlow, hhigh⟩ | h)
      · exact ⟨hge.trans hlow, hhigh.trans hge⟩
      · exact h

variable {S : Schema} {e : S.Entity} {wildcard : Option Char} {target : Target} {op : Operator}
  {literals : List Literal} {path : Path S e} {t : DataType} {x : S.Item e}

/-! ## Criteria of an operator and literals -/

/-- Whether the criterion of a target, an operator and literals is built. -/
def Builds (S : Schema) (e : S.Entity) (wildcard : Option Char) (target : Target) (op : Operator)
    (literals : List Literal) : Prop :=
  ∃ c, Criterion.make target op literals = .ok c ∧ ∃ f : Filter S e, build wildcard [c] = .ok f

/-- Whether the criterion is built into a filter that accepts an item. -/
def Admits (wildcard : Option Char) (target : Target) (op : Operator) (literals : List Literal)
    (x : S.Item e) : Prop :=
  ∃ c, Criterion.make target op literals = .ok c ∧
    ∃ f : Filter S e, build wildcard [c] = .ok f ∧ f.accepts x

/-- Every type supports the operators that are no patterns and need no order. -/
theorem supports_of_isOrdering_eq_false (hop : op.isOrdering = false) (hlike : op ≠ .like) :
    Supports t op := by
  refine ⟨fun h => ?_, fun h => absurd h hlike⟩
  rw [hop] at h
  cases h

theorem supports_iff_isOrdered (hop : op.isOrdering = true) : Supports t op ↔ t.isOrdered := by
  refine ⟨fun h => h.1 hop, fun h => ⟨fun _ => h, fun hlike => ?_⟩⟩
  rw [hlike] at hop
  cases hop

theorem supports_equal : Supports t .equal := supports_of_isOrdering_eq_false rfl (by decide)

theorem exists_criterion_iff {P : Criterion → Prop} :
    (∃ c, Criterion.make target op literals = .ok c ∧ P c) ↔
      ∃ h : op.arity.accepts literals.length, P ⟨target, op, literals, h⟩ := by
  constructor
  · rintro ⟨c, hc, h⟩
    obtain ⟨rfl, rfl, rfl⟩ := Query.make_eq_ok.1 hc
    exact ⟨c.accepted, h⟩
  · rintro ⟨haccepts, h⟩
    exact ⟨_, Query.make_eq_ok.2 ⟨rfl, rfl, rfl⟩, h⟩

theorem Admits.builds (h : Admits wildcard target op literals x) :
    Builds S e wildcard target op literals := by
  obtain ⟨c, hc, f, hf, -⟩ := h
  exact ⟨c, hc, f, hf⟩

section

variable (hpath : S.resolve e target = .ok path) (htype : path.dataType? = some t)

include hpath htype

theorem builds_iff :
    Builds S e wildcard target op literals ↔
      op.arity.accepts literals.length ∧ Supports t op ∧
        ∃ values, Converts path t literals values := by
  rw [Builds, exists_criterion_iff, ← exists_prop]
  refine exists_congr fun haccepts => ?_
  constructor
  · rintro ⟨f, hf⟩
    obtain ⟨hsupports, values, hconverts, -⟩ := (build_field_eq_ok hpath htype).1 hf
    exact ⟨hsupports, values, hconverts⟩
  · rintro ⟨hsupports, values, hconverts⟩
    exact ⟨_, (build_field_eq_ok hpath htype).2 ⟨hsupports, values, hconverts, _, rfl, rfl⟩⟩

/-- A comparison admits an item when it is built and the value of the item satisfies it. -/
theorem admits_iff (hop : op.IsComparison) :
    Admits wildcard target op literals x ↔
      op.arity.accepts literals.length ∧ Supports t op ∧ ∃ values,
        Converts path t literals values ∧ ∃ actual, path.read x = some actual ∧
          satisfies actual op (if op = .between then sortBounds values else values) := by
  rw [Admits, exists_criterion_iff, ← exists_prop]
  refine exists_congr fun haccepts => ?_
  constructor
  · rintro ⟨f, hf, hx⟩
    obtain ⟨hsupports, values, hconverts, _, rfl, rfl⟩ := (build_field_eq_ok hpath htype).1 hf
    rw [accepts_single, fieldTest_eq_comparisonTest hop.1 hop.2, comparisonTest_iff] at hx
    exact ⟨hsupports, values, hconverts, hx⟩
  · rintro ⟨hsupports, values, hconverts, hx⟩
    refine ⟨_, (build_field_eq_ok hpath htype).2 ⟨hsupports, values, hconverts, _, rfl, rfl⟩, ?_⟩
    rwa [accepts_single, fieldTest_eq_comparisonTest hop.1 hop.2, comparisonTest_iff]

/-- No comparison admits an item whose property reads nothing. -/
theorem not_admits_of_read (hop : op.IsComparison) (hread : path.read x = none) :
    ¬ Admits wildcard target op literals x := by
  rw [admits_iff hpath htype hop]
  rintro ⟨-, -, _, -, actual, hactual, -⟩
  rw [hread] at hactual
  cases hactual

/-- A comparison that is built admits an item by what its property reads. -/
theorem admits_iff_satisfies {values : List Value} {actual : Value} (hop : op.IsComparison)
    (hbuilds : Builds S e wildcard target op literals) (hconverts : Converts path t literals values)
    (hread : path.read x = some actual) :
    Admits wildcard target op literals x ↔
      satisfies actual op (if op = .between then sortBounds values else values) := by
  obtain ⟨haccepts, hsupports, -⟩ := (builds_iff hpath htype).1 hbuilds
  rw [admits_iff hpath htype hop, and_iff_right haccepts, and_iff_right hsupports]
  constructor
  · rintro ⟨values', hconverts', actual', hread', h⟩
    obtain rfl : values' = values := by
      rw [Converts, ← mapM_eq_ok] at hconverts hconverts'
      exact Except.ok.inj (hconverts'.symm.trans hconverts)
    obtain rfl : actual' = actual := Option.some.inj (hread'.symm.trans hread)
    exact h
  · exact fun h => ⟨values, hconverts, actual, hread, h⟩

/-! ## One literal -/

theorem builds_one_iff {l : Literal} (hone : op.arity = .one) :
    Builds S e wildcard target op [l] ↔ Supports t op ∧ ∃ v, convert path t l = .ok v := by
  rw [builds_iff hpath htype, hone, and_iff_right (by rfl), Converts, exists_forall₂_iff]
  simp

/-- A criterion with one literal is built when that for equality is, and the type supports the
    operator. -/
theorem builds_one_iff_equal {l : Literal} (hone : op.arity = .one) :
    Builds S e wildcard target op [l] ↔ Supports t op ∧ Builds S e wildcard target .equal [l] := by
  rw [builds_one_iff hpath htype hone,
    builds_one_iff hpath htype (show Operator.equal.arity = .one from rfl),
    and_iff_right supports_equal]

/-- What one literal that is built admits, by what the property reads. -/
theorem admits_one_iff {l : Literal} {v actual : Value} (hone : op.arity = .one)
    (hlike : op ≠ .like) (hbuilds : Builds S e wildcard target op [l])
    (hv : convert path t l = .ok v) (hread : path.read x = some actual) :
    Admits wildcard target op [l] x ↔ satisfies actual op [v] := by
  have hop : op.IsComparison := ⟨hlike, by rw [hone]; decide⟩
  have hbetween : op ≠ .between := by
    rintro rfl
    cases hone
  rw [admits_iff_satisfies hpath htype hop hbuilds (.cons hv .nil) hread, if_neg hbetween]

/-- Where a value is read, a criterion for inequality admits what that for equality does not. -/
theorem admits_notEqual_iff {l : Literal} {actual : Value}
    (hbuilds : Builds S e wildcard target .notEqual [l]) (hread : path.read x = some actual) :
    Admits wildcard target .notEqual [l] x ↔ ¬ Admits wildcard target .equal [l] x := by
  obtain ⟨-, hequal⟩ := (builds_one_iff_equal hpath htype rfl).1 hbuilds
  obtain ⟨-, v, hv⟩ := (builds_one_iff hpath htype rfl).1 hequal
  rw [admits_one_iff hpath htype rfl (by decide) hbuilds hv hread,
    admits_one_iff hpath htype rfl (by decide) hequal hv hread]
  simp [satisfies]

/-! ## Several literals -/

/-- A criterion with several literals is built when each of them gives one for equality. -/
theorem builds_several_iff_equal (hseveral : op.arity = .several) :
    Builds S e wildcard target op literals ↔
      literals ≠ [] ∧ ∀ l ∈ literals, Builds S e wildcard target .equal [l] := by
  have hsupports : Supports t op := by
    cases op with
    | oneOf => exact supports_of_isOrdering_eq_false rfl (by decide)
    | noneOf => exact supports_of_isOrdering_eq_false rfl (by decide)
    | _ => cases hseveral
  have hlength : Arity.several.accepts literals.length ↔ literals ≠ [] := by
    cases literals <;> simp [Arity.accepts]
  rw [builds_iff hpath htype, and_iff_right hsupports, hseveral, hlength, Converts,
    exists_forall₂_iff]
  refine and_congr_right fun _ => forall₂_congr fun l _ => ?_
  rw [builds_one_iff hpath htype rfl, and_iff_right supports_equal]

/-- A criterion for one of several literals admits what one of them does by itself. -/
theorem admits_oneOf_iff (hbuilds : Builds S e wildcard target .oneOf literals) :
    Admits wildcard target .oneOf literals x ↔
      ∃ l ∈ literals, Admits wildcard target .equal [l] x := by
  obtain ⟨-, hequal⟩ := (builds_several_iff_equal hpath htype rfl).1 hbuilds
  cases hread : path.read x with
  | none =>
    refine iff_of_false (not_admits_of_read hpath htype (by decide) hread) ?_
    rintro ⟨l, -, h⟩
    exact not_admits_of_read hpath htype (by decide) hread h
  | some actual =>
    obtain ⟨-, -, values, hconverts⟩ := (builds_iff hpath htype).1 hbuilds
    have hone {l : Literal} (hl : l ∈ literals) {v : Value} (hv : convert path t l = .ok v) :
        Admits wildcard target .equal [l] x ↔ actual.same v :=
      admits_one_iff hpath htype rfl (by decide) (hequal l hl) hv hread
    rw [admits_iff_satisfies hpath htype (by decide) hbuilds hconverts hread]
    show values.any actual.same ↔ _
    rw [List.any_eq_true]
    constructor
    · rintro ⟨v, hv, hsame⟩
      obtain ⟨l, hl, hlv⟩ := forall₂_mem_right hconverts v hv
      exact ⟨l, hl, (hone hl hlv).2 hsame⟩
    · rintro ⟨l, hl, h⟩
      obtain ⟨v, hv, hlv⟩ := forall₂_mem_left hconverts l hl
      exact ⟨v, hv, (hone hl hlv).1 h⟩

/-- Where a value is read, a criterion for none of several literals admits what that for one of
    them does not. -/
theorem admits_noneOf_iff {actual : Value} (hbuilds : Builds S e wildcard target .noneOf literals)
    (hread : path.read x = some actual) :
    Admits wildcard target .noneOf literals x ↔ ¬ Admits wildcard target .oneOf literals x := by
  have honeOf : Builds S e wildcard target .oneOf literals := by
    rw [builds_several_iff_equal hpath htype rfl] at hbuilds ⊢
    exact hbuilds
  obtain ⟨-, -, values, hconverts⟩ := (builds_iff hpath htype).1 hbuilds
  rw [admits_iff_satisfies hpath htype (by decide) hbuilds hconverts hread,
    admits_iff_satisfies hpath htype (by decide) honeOf hconverts hread]
  simp [satisfies]

/-! ## Order -/

variable (hf : t ≠ .float)

include hf

omit hpath in
/-- A value that is read can be compared with one that a literal is converted to. -/
theorem comparable_of_convert {l : Literal} {v actual : Value} (hv : convert path t l = .ok v)
    (hread : path.read x = some actual) :
    actual.dataType = v.dataType ∧ actual.dataType ≠ .float := by
  have hactual : t = actual.dataType :=
    Option.some.inj (htype.symm.trans (Path.dataType?_of_read hread))
  rw [← hactual, dataType_of_convert hv]
  exact ⟨rfl, hf⟩

omit hf in
/-- An ordered type has all criteria of an order that it has one for equality of. -/
theorem builds_ordering_iff {l : Literal} (hone : op.arity = .one) (hop : op.isOrdering = true) :
    Builds S e wildcard target op [l] ↔
      t.isOrdered ∧ Builds S e wildcard target .equal [l] := by
  rw [builds_one_iff_equal hpath htype hone, supports_iff_isOrdered hop]

/-- A criterion for an order or equality admits what that for the order or that for equality
    does. -/
theorem admits_iff_or_equal {strict : Operator} {l : Literal} (hone : op.arity = .one)
    (hop : op.isOrdering = true) (hone' : strict.arity = .one) (hop' : strict.isOrdering = true)
    (hsatisfies : ∀ actual v : Value, actual.dataType = v.dataType → actual.dataType ≠ .float →
      (satisfies actual op [v] ↔ satisfies actual strict [v] ∨ actual.same v))
    (hbuilds : Builds S e wildcard target op [l]) :
    Admits wildcard target op [l] x ↔
      Admits wildcard target strict [l] x ∨ Admits wildcard target .equal [l] x := by
  have hcomparison {op : Operator} (hone : op.arity = .one) (hop : op.isOrdering = true) :
      op.IsComparison := by
    constructor
    · rintro rfl
      cases hop
    · rw [hone]
      decide
  have hequal := (builds_ordering_iff hpath htype hone hop).1 hbuilds
  have hstrict := (builds_ordering_iff hpath htype hone' hop').2 hequal
  cases hread : path.read x with
  | none =>
    refine iff_of_false (not_admits_of_read hpath htype (hcomparison hone hop) hread) ?_
    rintro (h | h)
    · exact not_admits_of_read hpath htype (hcomparison hone' hop') hread h
    · exact not_admits_of_read hpath htype (by decide) hread h
  | some actual =>
    obtain ⟨-, v, hv⟩ := (builds_one_iff hpath htype hone).1 hbuilds
    obtain ⟨hvalue, hfloat⟩ := comparable_of_convert htype hf hv hread
    rw [admits_one_iff hpath htype hone (hcomparison hone hop).1 hbuilds hv hread,
      admits_one_iff hpath htype hone' (hcomparison hone' hop').1 hstrict hv hread,
      admits_one_iff hpath htype rfl (by decide) hequal.2 hv hread]
    exact hsatisfies actual v hvalue hfloat

theorem admits_greaterThanOrEqual_iff {l : Literal}
    (hbuilds : Builds S e wildcard target .greaterThanOrEqual [l]) :
    Admits wildcard target .greaterThanOrEqual [l] x ↔
      Admits wildcard target .greaterThan [l] x ∨ Admits wildcard target .equal [l] x := by
  refine admits_iff_or_equal hpath htype hf rfl rfl rfl rfl ?_ hbuilds
  intro actual v hvalue hfloat
  rw [satisfies, satisfies, Value.isAtLeast_iff, Value.isGreater_iff,
    Value.same_iff_cmp? hvalue hfloat]

theorem admits_lessThanOrEqual_iff {l : Literal}
    (hbuilds : Builds S e wildcard target .lessThanOrEqual [l]) :
    Admits wildcard target .lessThanOrEqual [l] x ↔
      Admits wildcard target .lessThan [l] x ∨ Admits wildcard target .equal [l] x := by
  refine admits_iff_or_equal hpath htype hf rfl rfl rfl rfl ?_ hbuilds
  intro actual v hvalue hfloat
  rw [satisfies, satisfies, Value.isAtMost_iff, Value.isLess_iff,
    Value.same_iff_cmp? hvalue hfloat]

/-- Where a value is read, it is less, equal or greater, and only one of the three. -/
theorem admits_trichotomy {l : Literal} {actual : Value} (hordered : t.isOrdered)
    (hbuilds : Builds S e wildcard target .equal [l]) (hread : path.read x = some actual) :
    let less := Admits wildcard target .lessThan [l] x
    let equal := Admits wildcard target .equal [l] x
    let greater := Admits wildcard target .greaterThan [l] x
    less ∧ ¬ equal ∧ ¬ greater ∨ ¬ less ∧ equal ∧ ¬ greater ∨ ¬ less ∧ ¬ equal ∧ greater := by
  obtain ⟨-, v, hv⟩ := (builds_one_iff hpath htype rfl).1 hbuilds
  have hless : Builds S e wildcard target .lessThan [l] :=
    (builds_ordering_iff hpath htype rfl rfl).2 ⟨hordered, hbuilds⟩
  have hgreater : Builds S e wildcard target .greaterThan [l] :=
    (builds_ordering_iff hpath htype rfl rfl).2 ⟨hordered, hbuilds⟩
  obtain ⟨hvalue, hfloat⟩ := comparable_of_convert htype hf hv hread
  intro less equal greater
  have hlessIff : less ↔ actual.cmp? v = some .lt := by
    rw [← Value.isLess_iff]
    exact admits_one_iff hpath htype rfl (by decide) hless hv hread
  have hequalIff : equal ↔ actual.cmp? v = some .eq := by
    rw [← Value.same_iff_cmp? hvalue hfloat]
    exact admits_one_iff hpath htype rfl (by decide) hbuilds hv hread
  have hgreaterIff : greater ↔ actual.cmp? v = some .gt := by
    rw [← Value.isGreater_iff]
    exact admits_one_iff hpath htype rfl (by decide) hgreater hv hread
  rw [hlessIff, hequalIff, hgreaterIff, Value.cmp?_eq_compare hvalue hfloat]
  cases compare actual.rank v.rank <;> simp

/-! ## Ranges -/

omit hf in
/-- A range is built when the type is ordered and each bound gives a criterion for equality. -/
theorem builds_between_iff {a b : Literal} :
    Builds S e wildcard target .between [a, b] ↔ t.isOrdered ∧
      Builds S e wildcard target .equal [a] ∧ Builds S e wildcard target .equal [b] := by
  rw [builds_iff hpath htype, and_iff_right (by rfl), supports_iff_isOrdered rfl, Converts,
    exists_forall₂_iff, builds_one_iff hpath htype rfl, builds_one_iff hpath htype rfl,
    and_iff_right supports_equal, and_iff_right supports_equal]
  simp

/-- A range admits what is at least one of its bounds and at most the other. -/
theorem admits_between_iff {a b : Literal} :
    Admits wildcard target .between [a, b] x ↔
      Admits wildcard target .greaterThanOrEqual [a] x ∧
          Admits wildcard target .lessThanOrEqual [b] x ∨
        Admits wildcard target .greaterThanOrEqual [b] x ∧
          Admits wildcard target .lessThanOrEqual [a] x := by
  have hatLeast {l : Literal} :
      Builds S e wildcard target .greaterThanOrEqual [l] ↔
        t.isOrdered ∧ Builds S e wildcard target .equal [l] :=
    builds_ordering_iff hpath htype rfl rfl
  have hatMost {l : Literal} :
      Builds S e wildcard target .lessThanOrEqual [l] ↔
        t.isOrdered ∧ Builds S e wildcard target .equal [l] :=
    builds_ordering_iff hpath htype rfl rfl
  by_cases hbuilds : Builds S e wildcard target .between [a, b]
  · obtain ⟨hordered, ha, hb⟩ := (builds_between_iff hpath htype).1 hbuilds
    cases hread : path.read x with
    | none =>
      refine iff_of_false (not_admits_of_read hpath htype (by decide) hread) ?_
      rintro (⟨h, -⟩ | ⟨h, -⟩)
      · exact not_admits_of_read hpath htype (by decide) hread h
      · exact not_admits_of_read hpath htype (by decide) hread h
    | some actual =>
      obtain ⟨-, u, hu⟩ := (builds_one_iff hpath htype rfl).1 ha
      obtain ⟨-, v, hv⟩ := (builds_one_iff hpath htype rfl).1 hb
      have hactual : actual.dataType = t :=
        (comparable_of_convert htype hf hu hread).1.trans (dataType_of_convert hu)
      rw [admits_iff_satisfies hpath htype (by decide) hbuilds (.cons hu (.cons hv .nil)) hread,
        admits_one_iff hpath htype rfl (by decide) (hatLeast.2 ⟨hordered, ha⟩) hu hread,
        admits_one_iff hpath htype rfl (by decide) (hatMost.2 ⟨hordered, hb⟩) hv hread,
        admits_one_iff hpath htype rfl (by decide) (hatLeast.2 ⟨hordered, hb⟩) hv hread,
        admits_one_iff hpath htype rfl (by decide) (hatMost.2 ⟨hordered, ha⟩) hu hread]
      exact satisfies_between_sortBounds hf hactual (dataType_of_convert hu)
        (dataType_of_convert hv)
  · refine iff_of_false (fun h => hbuilds h.builds) ?_
    rw [builds_between_iff hpath htype] at hbuilds
    rintro (⟨hlow, hhigh⟩ | ⟨hlow, hhigh⟩)
    · obtain ⟨hordered, ha⟩ := hatLeast.1 hlow.builds
      exact hbuilds ⟨hordered, ha, (hatMost.1 hhigh.builds).2⟩
    · obtain ⟨hordered, hb⟩ := hatLeast.1 hlow.builds
      exact hbuilds ⟨hordered, (hatMost.1 hhigh.builds).2, hb⟩

end

/-! ## All operators -/

/-- How the criteria of the operators on a property of type `t` are related, whatever literals they
    have and whatever the items hold. -/
structure OperatorLaws (wildcard : Option Char) (target : Target) (path : Path S e)
    (t : DataType) : Prop where
  /-- One of several literals is asked for when there are some, and each can be. -/
  builds_oneOf (ls : List Literal) : Builds S e wildcard target .oneOf ls ↔
    ls ≠ [] ∧ ∀ l ∈ ls, Builds S e wildcard target .equal [l]
  /-- It is found where any of them is. -/
  oneOf (ls : List Literal) : Builds S e wildcard target .oneOf ls → ∀ x : S.Item e,
    (Admits wildcard target .oneOf ls x ↔ ∃ l ∈ ls, Admits wildcard target .equal [l] x)
  /-- None of several literals is asked for whenever one of them can be. -/
  builds_noneOf (ls : List Literal) :
    Builds S e wildcard target .noneOf ls ↔ Builds S e wildcard target .oneOf ls
  /-- Among values, the one is the complement of the other. -/
  noneOf (ls : List Literal) : Builds S e wildcard target .noneOf ls → ∀ x v,
    path.read x = some v →
      (Admits wildcard target .noneOf ls x ↔ ¬ Admits wildcard target .oneOf ls x)
  /-- Inequality is asked for whenever equality can be. -/
  builds_notEqual (l : Literal) :
    Builds S e wildcard target .notEqual [l] ↔ Builds S e wildcard target .equal [l]
  /-- Among values, the one is the complement of the other. -/
  notEqual (l : Literal) : Builds S e wildcard target .notEqual [l] → ∀ x v,
    path.read x = some v →
      (Admits wildcard target .notEqual [l] x ↔ ¬ Admits wildcard target .equal [l] x)
  /-- An order is asked for whenever equality can be, if the type is ordered. -/
  builds_ordering (op : Operator) (l : Literal) : op.arity = .one → op.isOrdering = true →
    (Builds S e wildcard target op [l] ↔ t.isOrdered ∧ Builds S e wildcard target .equal [l])
  /-- At least as great is greater or equal. -/
  greaterThanOrEqual (l : Literal) : Builds S e wildcard target .greaterThanOrEqual [l] →
    ∀ x : S.Item e, (Admits wildcard target .greaterThanOrEqual [l] x ↔
      Admits wildcard target .greaterThan [l] x ∨ Admits wildcard target .equal [l] x)
  /-- At most as great is less or equal. -/
  lessThanOrEqual (l : Literal) : Builds S e wildcard target .lessThanOrEqual [l] →
    ∀ x : S.Item e, (Admits wildcard target .lessThanOrEqual [l] x ↔
      Admits wildcard target .lessThan [l] x ∨ Admits wildcard target .equal [l] x)
  /-- In an ordered type a value is less, equal or greater, and only one of the three. -/
  trichotomy (l : Literal) : t.isOrdered → Builds S e wildcard target .equal [l] → ∀ x v,
    path.read x = some v →
      let less := Admits wildcard target .lessThan [l] x
      let equal := Admits wildcard target .equal [l] x
      let greater := Admits wildcard target .greaterThan [l] x
      less ∧ ¬ equal ∧ ¬ greater ∨ ¬ less ∧ equal ∧ ¬ greater ∨ ¬ less ∧ ¬ equal ∧ greater
  /-- A range is asked for whenever equality with both its bounds can be, in an ordered type. -/
  builds_between (a b : Literal) : Builds S e wildcard target .between [a, b] ↔
    t.isOrdered ∧ Builds S e wildcard target .equal [a] ∧ Builds S e wildcard target .equal [b]
  /-- The bounds of a range may come in either order. -/
  between_comm (a b : Literal) (x : S.Item e) :
    Admits wildcard target .between [a, b] x ↔ Admits wildcard target .between [b, a] x
  /-- In a range is what is at least one of its bounds and at most the other. -/
  between (a b : Literal) (x : S.Item e) : Admits wildcard target .between [a, b] x ↔
    Admits wildcard target .greaterThanOrEqual [a] x ∧
        Admits wildcard target .lessThanOrEqual [b] x ∨
      Admits wildcard target .greaterThanOrEqual [b] x ∧
        Admits wildcard target .lessThanOrEqual [a] x

/-- **The operators on a property obey their laws.**  On every property of an entity that is no
    float, all criteria are built and accept items as the laws of their operators say. -/
theorem operatorLaws (hpath : S.resolve e target = .ok path) (htype : path.dataType? = some t)
    (hf : t ≠ .float) (wildcard : Option Char) : OperatorLaws wildcard target path t where
  builds_oneOf _ := builds_several_iff_equal hpath htype rfl
  oneOf _ hbuilds _ := admits_oneOf_iff hpath htype hbuilds
  builds_noneOf _ := by
    rw [builds_several_iff_equal hpath htype rfl, builds_several_iff_equal hpath htype rfl]
  noneOf _ hbuilds _ _ hread := admits_noneOf_iff hpath htype hbuilds hread
  builds_notEqual _ := by
    rw [builds_one_iff_equal hpath htype rfl]
    exact and_iff_right (supports_of_isOrdering_eq_false rfl (by decide))
  notEqual _ hbuilds _ _ hread := admits_notEqual_iff hpath htype hbuilds hread
  builds_ordering _ _ hone hop := builds_ordering_iff hpath htype hone hop
  greaterThanOrEqual _ hbuilds _ := admits_greaterThanOrEqual_iff hpath htype hf hbuilds
  lessThanOrEqual _ hbuilds _ := admits_lessThanOrEqual_iff hpath htype hf hbuilds
  trichotomy _ hordered hbuilds _ _ hread :=
    admits_trichotomy hpath htype hf hordered hbuilds hread
  builds_between _ _ := builds_between_iff hpath htype
  between_comm _ _ _ := by
    rw [admits_between_iff hpath htype hf, admits_between_iff hpath htype hf, or_comm]
  between _ _ _ := admits_between_iff hpath htype hf

/-- The path to the age. -/
def agePath : Path ages () := ⟨ageBetween.target, .field (Field.of fun age : Option Int64 => age)⟩

/-- An age between 30 and 18 is one between 18 and 30. -/
theorem operatorLaws_ages :
    Admits (S := ages) (e := ()) none ageBetween.target .between ageBetween.literals (some 20) ∧
      Admits (S := ages) (e := ()) none ageBetween.target .between ageBetween.literals.reverse
        (some 20) := by
  have hpath : ages.resolve () ageBetween.target = .ok agePath := rfl
  have laws := operatorLaws hpath (t := .integer) rfl (by decide) none
  have hbuild : (build (S := ages) (e := ()) none [ageBetween]).map (·.accepts (some 20)) =
      .ok true := by decide +kernel
  obtain ⟨f, hf, haccepts⟩ := map_eq_ok.1 hbuild
  have hbetween : Admits (S := ages) (e := ()) none ageBetween.target .between
      ageBetween.literals (some 20) :=
    ⟨ageBetween, Query.make_eq_ok.2 ⟨rfl, rfl, rfl⟩, f, hf, haccepts⟩
  exact ⟨hbetween, (laws.between_comm _ _ _).1 hbetween⟩

end Filter

end ResourceQuery
