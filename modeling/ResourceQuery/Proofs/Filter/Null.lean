/-
  Resource queries — nulls.

  * `Route.Missing`: nothing is at the end of a route, because the field there has no value, or
    because a reference on the way is absent.
  * `Route.isNull_iff_missing`: such is what counts as null, and what is missing is not read.
  * `build_null`: a criterion accepts an item that misses its property only when it asks for
    null; where the property has a value, null is what it holds when it has not been set, if it
    cannot be null; and of the two criteria for null exactly one accepts.
-/
import ResourceQuery.Proofs.Filter.Single

namespace ResourceQuery

open Outcome

variable {S : Schema} {e : S.Entity}

/-! ## Routes -/

namespace Route

/-- Whether there is nothing at the end of a route: a field without a value, an absent reference
    at the end, or an absent one on the way. -/
inductive Missing {S : Schema} : {e : S.Entity} → Route S e → S.Item e → Prop
  | field {e : S.Entity} {f : Field (S.Item e)} {x : S.Item e} :
      f.get x = none → Missing (.field f) x
  | reference {e target : S.Entity} {navigate : S.Item e → Option (S.Item target)}
      {x : S.Item e} : navigate x = none → Missing (.reference navigate) x
  | absent {e target : S.Entity} {navigate : S.Item e → Option (S.Item target)}
      {rest : Route S target} {x : S.Item e} :
      navigate x = none → Missing (.through navigate rest) x
  | beyond {e target : S.Entity} {navigate : S.Item e → Option (S.Item target)}
      {rest : Route S target} {x : S.Item e} {y : S.Item target} :
      navigate x = some y → Missing rest y → Missing (.through navigate rest) x

theorem missing_field {e : S.Entity} {f : Field (S.Item e)} {x : S.Item e} :
    Missing (.field f) x ↔ f.get x = none :=
  ⟨fun | .field h => h, .field⟩

/-- What counts as null at the end of a route is what is missing there. -/
theorem isNull_iff_missing {e : S.Entity} {r : Route S e} {x : S.Item e} :
    r.isNull x ↔ r.Missing x := by
  induction r with
  | field f =>
    rw [isNull, Option.isNone_iff_eq_none, missing_field]
  | reference navigate =>
    rw [isNull, Option.isNone_iff_eq_none]
    exact ⟨.reference, fun | .reference h => h⟩
  | through navigate rest ih =>
    rw [isNull]
    constructor
    · intro h
      cases hy : navigate x with
      | none => exact .absent hy
      | some y =>
        rw [hy] at h
        exact .beyond hy (ih.1 h)
    · intro h
      cases h with
      | absent hx => rw [hx]; rfl
      | beyond hx hy =>
        rw [hx]
        exact ih.2 hy

/-- What is missing is not read; where a route ends at a field, nothing else is not read. -/
theorem read_eq_none_iff {e : S.Entity} {r : Route S e} {x : S.Item e} {t : DataType}
    (htype : r.dataType? = some t) : r.read x = none ↔ r.isNull x := by
  induction r with
  | field f => rw [read, isNull, Option.isNone_iff_eq_none]
  | reference navigate => cases htype
  | through navigate rest ih =>
    rw [read, isNull]
    cases navigate x with
    | none => simp
    | some y => exact ih htype

end Route

namespace Field

variable {Item : Type} {x : Item}

/-- An unsigned number has no value beyond the signed range. -/
theorem get_eq_none_of_unsigned (get : Item → UInt64) :
    (of get).get x = none ↔ 9223372036854775807 < (get x).toNat := by
  show (Numeral.int64? ((get x).toNat : Int)).map Value.integer = none ↔ _
  rw [Option.map_eq_none_iff, Numeral.int64?]
  split <;> simp <;> omega

/-- An optional content has no value where there is none, or where what is there has none. -/
theorem get_eq_none_of_option {α : Type} [FieldType α] {get : Item → Option α} :
    (of get).get x = none ↔ ∀ a, get x = some a → FieldType.toValue? a = none := by
  show (get x).bind FieldType.toValue? = none ↔ _
  rw [Option.bind_eq_none_iff]

end Field

namespace Path

/-- Whether there is nothing at the end of a path. -/
def Missing (p : Path S e) (x : S.Item e) : Prop := p.route.Missing x

variable {p : Path S e} {x : S.Item e}

theorem isNull_iff_missing : p.isNull x ↔ p.Missing x := Route.isNull_iff_missing

theorem read_eq_none_iff {t : DataType} (htype : p.dataType? = some t) :
    p.read x = none ↔ p.Missing x :=
  (Route.read_eq_none_iff htype).trans isNull_iff_missing

end Path

namespace Filter

variable {wildcard : Option Char} {path : Path S e} {t : DataType} {op : Operator}
  {values : List Value} {x : S.Item e}

/-! ## Tests -/

/-- Where the property is missing, only the test for null passes. -/
theorem fieldTest_of_missing (htype : path.dataType? = some t) (hmissing : path.Missing x) :
    fieldTest wildcard path t op values x ↔ op = .isNull := by
  have hnull : path.isNull x := Path.isNull_iff_missing.2 hmissing
  have hread : path.read x = none := (Path.read_eq_none_iff htype).2 hmissing
  cases op with
  | isNull => simp [fieldTest, nullTest, hnull]
  | isNotNull => simp [fieldTest, nullTest, hnull]
  | like => simp [fieldTest, likeTestAt, hread]
  | _ => simp [fieldTest, comparisonTest, hread]

/-- A value passes the test for null when the property cannot be null and has not been set. -/
theorem fieldTest_isNull_of_read {v : Value} (htype : path.dataType? = some t)
    (hread : path.read x = some v) :
    fieldTest wildcard path t .isNull values x ↔ path.nullable = false ∧ v.same t.default := by
  have hnull : ¬ path.isNull x := by
    rw [Path.isNull_iff_missing, ← Path.read_eq_none_iff htype, hread]
    exact Option.some_ne_none v
  cases hnullable : path.nullable <;> simp [fieldTest, nullTest, hnull, hread, hnullable]

theorem nullTest_false {unset : Option Value} :
    nullTest path unset false x = !nullTest path unset true x := by
  simp [nullTest]

/-- At the end of a reference, what is absent passes the test for null, and nothing else. -/
theorem nullTest_reference {wanted : Bool} :
    nullTest path none wanted x ↔ (path.Missing x ↔ wanted) := by
  rw [← Path.isNull_iff_missing, nullTest, Option.any_none, Bool.or_false, beq_iff_eq,
    Bool.eq_iff_iff]

/-! ## Criteria -/

theorem build_of_missing {c : Criterion} {f : Filter S e} (hpath : S.resolve e c.target = .ok path)
    (hf : build wildcard [c] = .ok f) (hmissing : path.Missing x) :
    f.accepts x ↔ c.operator = .isNull := by
  cases htype : path.dataType? with
  | none =>
    obtain ⟨-, rfl⟩ := (build_reference_eq_ok hpath htype).1 hf
    rw [accepts_single, nullTest_reference, iff_true_left hmissing, decide_eq_true_eq]
  | some t =>
    obtain ⟨-, _, -, _, -, rfl⟩ := (build_field_eq_ok hpath htype).1 hf
    rw [accepts_single, fieldTest_of_missing htype hmissing]

theorem build_isNull_of_read {c : Criterion} {f : Filter S e} {v : Value}
    (hpath : S.resolve e c.target = .ok path) (hf : build wildcard [c] = .ok f)
    (hop : c.operator = .isNull) (htype : path.dataType? = some t) (hread : path.read x = some v) :
    f.accepts x ↔ path.nullable = false ∧ v.same t.default := by
  obtain ⟨-, _, -, _, -, rfl⟩ := (build_field_eq_ok hpath htype).1 hf
  rw [accepts_single, hop, fieldTest_isNull_of_read htype hread]

theorem build_isNull_of_present {c : Criterion} {f : Filter S e}
    (hpath : S.resolve e c.target = .ok path) (hf : build wildcard [c] = .ok f)
    (hop : c.operator = .isNull) (htype : path.dataType? = none) (hpresent : ¬ path.Missing x) :
    ¬ f.accepts x := by
  obtain ⟨-, rfl⟩ := (build_reference_eq_ok hpath htype).1 hf
  rw [accepts_single, nullTest_reference]
  simp [hop, hpresent]

/-- Any property can be asked whether it is null and whether it is not, and of these two exactly
    one holds. -/
theorem exists_null_filters {target : Target} (hpath : S.resolve e target = .ok path) :
    ∃ f g : Filter S e, build wildcard [⟨target, .isNull, [], rfl⟩] = .ok f ∧
      build wildcard [⟨target, .isNotNull, [], rfl⟩] = .ok g ∧ ∀ x, f.accepts x = !g.accepts x := by
  cases htype : path.dataType? with
  | none =>
    refine ⟨_, _, (build_reference_eq_ok hpath htype).2 ⟨rfl, rfl⟩,
      (build_reference_eq_ok hpath htype).2 ⟨rfl, rfl⟩, fun x => ?_⟩
    rw [accepts_single, accepts_single]
    show nullTest path none true x = !nullTest path none false x
    rw [nullTest_false, Bool.not_not]
  | some t =>
    have hbuild {op : Operator} (harity : op.arity.accepts 0) (hop : op.arity = .zero) :
        build wildcard [⟨target, op, [], harity⟩] =
          .ok (single ⟨target, some t, path.nullable, op, []⟩
            (fieldTest wildcard path t op [])) := by
      refine (build_field_eq_ok hpath htype).2 ?_
      rcases Operator.isNull_or_isNotNull hop with rfl | rfl
      · exact ⟨⟨(fun h => nomatch h), (fun h => nomatch h)⟩, [], .nil, [], rfl, rfl⟩
      · exact ⟨⟨(fun h => nomatch h), (fun h => nomatch h)⟩, [], .nil, [], rfl, rfl⟩
    refine ⟨_, _, hbuild rfl rfl, hbuild rfl rfl, fun x => ?_⟩
    rw [accepts_single, accepts_single, fieldTest, fieldTest, nullTest_false, Bool.not_not]

/-- **Null propagates.**  However long a path is, a criterion on it accepts an item for which a
    reference on the way is absent, or the property is null, exactly when it asks for null.  Asked
    for null, it accepts a value exactly when the property cannot be null and the value is that
    of a property that has not been set, and no reference that is there.  And of the criteria that
    the property is null and that it is not, both are built, and exactly one accepts any item.  A
    field reads null where its content is none, and where an unsigned number is beyond the signed
    range. -/
theorem build_null {target : Target} (hpath : S.resolve e target = .ok path)
    (wildcard : Option Char) :
    (∀ (c : Criterion) (f : Filter S e), c.target = target → build wildcard [c] = .ok f → ∀ x,
      (path.Missing x → (f.accepts x ↔ c.operator = .isNull)) ∧
        (c.operator = .isNull →
          (∀ t v, path.dataType? = some t → path.read x = some v →
            (f.accepts x ↔ path.nullable = false ∧ v.same t.default)) ∧
          (path.dataType? = none → ¬ path.Missing x → ¬ f.accepts x))) ∧
      (∃ f g : Filter S e, build wildcard [⟨target, .isNull, [], rfl⟩] = .ok f ∧
        build wildcard [⟨target, .isNotNull, [], rfl⟩] = .ok g ∧
        ∀ x, f.accepts x = !g.accepts x) ∧
      (∀ (get : S.Item e → UInt64) x,
        Route.Missing (.field (.of get)) x ↔ 9223372036854775807 < (get x).toNat) ∧
      ∀ (get : S.Item e → Option UInt64) x,
        Route.Missing (.field (.of get)) x ↔
          ∀ n, get x = some n → 9223372036854775807 < n.toNat := by
  refine ⟨?_, exists_null_filters hpath, fun get x => ?_, fun get x => ?_⟩
  · rintro c f rfl hf x
    refine ⟨build_of_missing hpath hf, fun hop => ⟨fun t v => ?_, ?_⟩⟩
    · exact build_isNull_of_read hpath hf hop
    · exact build_isNull_of_present hpath hf hop
  · rw [Route.missing_field, Field.get_eq_none_of_unsigned]
  · rw [Route.missing_field, Field.get_eq_none_of_option]
    refine forall₂_congr fun n _ => ?_
    exact Field.get_eq_none_of_unsigned (id : UInt64 → UInt64)

/-- Someone with a number and perhaps a manager. -/
inductive Member where
  | member (number : UInt64) (manager : Option Member)

/-- The number of a member. -/
def Member.number : Member → UInt64
  | member number _ => number

/-- The manager of a member. -/
def Member.manager : Member → Option Member
  | member _ manager => manager

/-- An entity that refers to itself. -/
def staff : Schema where
  Entity := Unit
  Item _ := Member
  properties _ :=
    [.field "number".toList (Field.of Member.number),
      .reference "manager".toList () Member.manager]

/-- A number other than 7, two references away. -/
def notSeven : Criterion :=
  ⟨⟨["manager".toList, "manager".toList, "number".toList], by decide⟩, .notEqual,
    [.ofValue (.integer 7)], by decide⟩

/-- The route of the manager, which goes on as a route of this entity. -/
def throughManager (rest : Route staff ()) : Route staff () := .through Member.manager rest

/-- The path to that number. -/
def managersNumber : Path staff () :=
  ⟨notSeven.target, throughManager (throughManager (.field (Field.of Member.number)))⟩

/-- Where the manager has no manager, or one with a number beyond the signed range, that number
    is not other than 7 either. -/
theorem build_null_staff : ∃ f : Filter staff (), build none [notSeven] = .ok f ∧
    ¬ f.accepts (.member 1 (some (.member 2 none))) ∧
    ¬ f.accepts (.member 1 (some (.member 2 (some (.member 9223372036854775808 none))))) := by
  have hpath : staff.resolve () notSeven.target = .ok managersNumber := rfl
  have hbuild : (build (S := staff) (e := ()) none [notSeven]).map (·.tests.length) = .ok 1 := by
    decide +kernel
  obtain ⟨f, hf, -⟩ := map_eq_ok.1 hbuild
  obtain ⟨hnull, -, hunsigned, -⟩ := build_null hpath none
  have hrejects {x : Member} (hmissing : managersNumber.Missing x) : ¬ f.accepts x := by
    intro hx
    cases ((hnull notSeven f rfl hf x).1 hmissing).1 hx
  have hbeyond : Route.Missing (S := staff) (.field (.of Member.number))
      (Member.member 9223372036854775808 none) := (hunsigned Member.number _).2 (by decide)
  exact ⟨f, hf, hrejects (.beyond rfl (.absent rfl)),
    hrejects (.beyond rfl (.beyond rfl hbeyond))⟩

end Filter

end ResourceQuery
