/-
  Resource queries — conversions there and back.

  * `Value.IsPlain`: the values that their literals denote, other than strings.
  * `Value.Converts`: what such a value converts to: its literal, the same number, the same time.
    `converts_of_coerce?`: nothing else is ever the outcome of a conversion.
  * `Value.kept`: what is kept of a value: all of it, but of an instant in a string only what a
    clock shows.
  * `Converts.exists_back`: from there a conversion leads back to what has been kept.
  * `coerce?_back`: so conversions lose nothing, but the instants whose time no clock shows.
-/
import ResourceQuery.Proofs.Value.Alike
import ResourceQuery.Proofs.Value.Inference
import ResourceQuery.Proofs.Value.Order

namespace ResourceQuery.Value

variable {v w : Value} {t : DataType}

/-- Whether a value is neither a string nor a float, nor an instant in a year with a sign. -/
def IsPlain : Value → Prop
  | string _ | float _ => False
  | dateTime i => Calendar.IsPlainYear i.date.year
  | _ => True

/-- A value and what it converts to. -/
inductive Converts : Value → Value → Prop
  | refl (v : Value) : Converts v v
  | literal (v : Value) : Converts v (.string v.literal)
  | decimal (i : Int64) : Converts (.integer i) (.decimal (.ofInt i.toInt))
  | integer {d : Decimal} {i : Int64} : d.number = i.toInt → Converts (.decimal d) (.integer i)
  | dateTime (d : Date) : Converts (.date d) (.dateTime (.midnight d))
  | date (d : Date) : Converts (.dateTime (.midnight d)) (.date d)

/-! ## Literals -/

theorem IsPlain.dataType_ne (h : v.IsPlain) : v.dataType ≠ .string ∧ v.dataType ≠ .float := by
  cases v with
  | string s => exact absurd h id
  | float x => exact absurd h id
  | _ => exact ⟨DataType.noConfusion, DataType.noConfusion⟩

theorem IsPlain.alike_reread (h : v.IsPlain) : Alike v.reread v.shown := by
  refine Value.alike_reread ?_
  cases v with
  | dateTime i => exact h
  | _ => trivial

theorem Alike.dataType_eq (h : Alike v w) : v.dataType = w.dataType := by
  cases h <;> rfl

theorem Equal.dataType_eq (h : Equal v w) : v.dataType = w.dataType := by
  cases h <;> rfl

theorem coerce?_self (v : Value) : v.coerce? v.dataType = some v := by
  unfold coerce?
  exact if_pos rfl

theorem coerce?_string {s : Text} (ht : t ≠ .string) : (string s).coerce? t = parseAs? s t := by
  unfold coerce?
  exact if_neg ht.symm

/-- The literal of a plain value has the form of its type. -/
theorem IsPlain.hasForm_literal (h : v.IsPlain) :
    HasForm (Text.trim v.literal) (form v.dataType) := by
  obtain ⟨hs, hf⟩ := h.dataType_ne
  have hinfers := infers_infer v.literal
  rw [infer_literal hf hs] at hinfers
  have htype := h.alike_reread.dataType_eq.trans v.dataType_shown
  rw [← htype] at hs ⊢
  exact (hinfers.hasForm hs).1

/-- The literal of a plain value is read back at its type. -/
theorem IsPlain.parseAs?_literal (h : v.IsPlain) :
    parseAs? v.literal v.dataType = some v.reread := by
  cases v with
  | string s => exact absurd h id
  | float x => exact absurd h id
  | integer i =>
    have hread := Numeral.readInt64?_ofInt i
    have hparse := (parseAs?_of_decimal (Decimal.read?_of_readInt64? hread)).2
    rwa [hread] at hparse
  | decimal d => exact (parseAs?_of_decimal d.notated_literal.read?_eq).1
  | boolean b => exact parseAs?_of_boolean (by cases b <;> rfl)
  | date d => exact (parseAs?_of_date d.read?_toText).1
  | dateTime i =>
    have hyear : Calendar.IsPlainYear i.date.year := h
    have hread := i.read?_toText
    rw [if_pos hyear] at hread
    rw [reread, if_pos hyear]
    exact (parseAs?_of_dateTime hread).1

/-! ## There -/

theorem eq_midnight_of_date? {i : Instant} {d : Date} (h : i.date? = some d) :
    i = .midnight d := by
  obtain ⟨date, second, nano, _⟩ := i
  rw [Instant.date?] at h
  split at h
  · rename_i hzero
    obtain ⟨rfl, rfl⟩ := hzero
    obtain rfl := Option.some.inj h
    rfl
  · cases h

/-- A conversion of a plain value gives its literal, the same number or the same time. -/
theorem converts_of_coerce? (hv : v.IsPlain) (ht : t ≠ .float) (h : v.coerce? t = some w) :
    Converts v w ∧ w.dataType = t := by
  by_cases hk : Serves (form v.dataType) t
  swap
  · -- the literal has the form of the type of `v`, so it is not read as `t`
    rw [coerce?_eq_parseAs?_literal hk, parseAs?_eq_none hv.hasForm_literal hk] at h
    cases h
  have hself (htype : v.dataType = t) : Converts v w ∧ w.dataType = t := by
    rw [← htype, coerce?_self] at h
    obtain rfl := Option.some.inj h
    exact ⟨.refl v, htype⟩
  cases t with
  | float => exact absurd rfl ht
  | string =>
    have hliteral : v.coerce? .string = some (string v.literal) := by
      cases v with
      | string s => exact absurd hv id
      | _ => rfl
    rw [hliteral] at h
    obtain rfl := Option.some.inj h
    exact ⟨.literal v, rfl⟩
  | boolean =>
    cases v with
    | boolean b => exact hself rfl
    | string s => exact absurd hv id
    | _ => cases hk
  | integer =>
    cases v with
    | integer i => exact hself rfl
    | decimal d =>
      obtain ⟨i, hi, rfl⟩ := Option.map_eq_some_iff.1 h
      exact ⟨.integer (Decimal.toInt64?_eq_some.1 hi), rfl⟩
    | string s => exact absurd hv id
    | _ => cases hk
  | decimal =>
    cases v with
    | integer i =>
      obtain rfl := Option.some.inj h
      exact ⟨.decimal i, rfl⟩
    | decimal d => exact hself rfl
    | string s => exact absurd hv id
    | _ => cases hk
  | date =>
    cases v with
    | date d => exact hself rfl
    | dateTime i =>
      obtain ⟨d, hd, rfl⟩ := Option.map_eq_some_iff.1 h
      rw [eq_midnight_of_date? hd]
      exact ⟨.date d, rfl⟩
    | _ => rcases hk with hk | hk <;> cases hk
  | dateTime =>
    cases v with
    | date d =>
      obtain rfl := Option.some.inj h
      exact ⟨.dateTime d, rfl⟩
    | dateTime i => exact hself rfl
    | _ => rcases hk with hk | hk <;> cases hk

/-! ## And back -/

/-- What a conversion to the type `t` keeps of a value: a string tells only what a clock shows. -/
def kept (t : DataType) (v : Value) : Value := if t = .string then v.shown else v

theorem dataType_kept (t : DataType) (v : Value) : (v.kept t).dataType = v.dataType := by
  rw [kept]
  split
  · exact v.dataType_shown
  · rfl

/-- What a plain value converts to converts back to a value that is equal to what has been kept. -/
theorem Converts.exists_back (hv : v.IsPlain) (h : Converts v w) :
    ∃ v', w.coerce? v.dataType = some v' ∧ v'.Equal (v.kept w.dataType) := by
  cases h with
  | refl =>
    rw [kept, if_neg hv.dataType_ne.1]
    exact ⟨v, coerce?_self v, .refl v⟩
  | literal =>
    refine ⟨v.reread, ?_, hv.alike_reread.equal⟩
    rw [coerce?_string hv.dataType_ne.1]
    exact hv.parseAs?_literal
  | decimal i =>
    have hread : (Decimal.ofInt i.toInt).toInt64? = some i :=
      Decimal.toInt64?_eq_some.2 (Decimal.number_ofInt _)
    exact ⟨_, congrArg (Option.map Value.integer) hread, .refl _⟩
  | @integer d i hnumber =>
    refine ⟨_, rfl, .decimal ?_⟩
    rw [hnumber, Decimal.number_ofInt]
  | dateTime d => exact ⟨_, rfl, .refl _⟩
  | date d => exact ⟨_, rfl, .refl _⟩

/-- Equal values have equal ranks. -/
theorem Equal.rank_eq (h : Equal v w) : v.rank = w.rank := by
  cases h with
  | refl => rfl
  | decimal hn => exact congrArg (· :: []) hn

/-- All of a plain value is kept, except in a string of an instant whose time no clock shows. -/
theorem IsPlain.same_kept_iff (hv : v.IsPlain) :
    (v.kept t).same v ↔ (t = .string → v.IsClocked) := by
  rw [kept]
  split
  · rename_i ht
    rw [forall_prop_of_true ht]
    exact same_shown_iff hv.dataType_ne.2
  · rename_i ht
    exact iff_of_true (same_self hv.dataType_ne.2) fun h => absurd h ht

/-- Values of one type that are shown alike are equal unless a clock shows the time of just one of
    them. -/
theorem same_iff_of_same_shown {u : Value} (htype : u.dataType = v.dataType)
    (h : u.shown.same v.shown) : u.same v ↔ (u.IsClocked ↔ v.IsClocked) := by
  cases u <;> cases v <;> cases htype
  case dateTime i j =>
    rw [shown, shown, same, beq_iff_eq] at h
    rw [same, beq_iff_eq]
    exact Instant.eq_iff_of_shown_eq h
  all_goals exact iff_of_true h Iff.rfl

/-- Values of one type of which the same is kept are equal, unless a string has been kept and a clock
    shows the time of just one of them. -/
theorem same_iff_of_same_kept {u : Value} (htype : u.dataType = v.dataType)
    (h : (u.kept t).same (v.kept t)) :
    u.same v ↔ (t = .string → (u.IsClocked ↔ v.IsClocked)) := by
  rw [kept, kept] at h
  split at h
  · rename_i ht
    rw [forall_prop_of_true ht]
    exact same_iff_of_same_shown htype h
  · rename_i ht
    exact iff_of_true h fun hs => absurd hs ht

/-- **Conversions lose nothing that a clock shows.**  What a plain value converts to, other than a
    float, is of the type that it has been converted to, and converts back to a value that is equal
    to the first one; only the string of an instant whose time no clock shows converts back to
    another instant.  So two values of one type that convert to equal values are equal, unless they
    convert to strings and a clock shows the time of just one of them. -/
theorem coerce?_back (hv : v.IsPlain) (ht : t ≠ .float) (h : v.coerce? t = some w) :
    w.dataType = t ∧
      (∃ v', w.coerce? v.dataType = some v' ∧ (v'.same v ↔ (t = .string → v.IsClocked))) ∧
      ∀ u x, IsPlain u → u.dataType = v.dataType → u.coerce? t = some x → x.same w →
        (u.same v ↔ (t = .string → (u.IsClocked ↔ v.IsClocked))) := by
  obtain ⟨hstring, hfloat⟩ := hv.dataType_ne
  obtain ⟨hconverts, htype⟩ := converts_of_coerce? hv ht h
  obtain ⟨v', hback, hequal⟩ := hconverts.exists_back hv
  rw [htype] at hequal
  have hvtype : v'.dataType = v.dataType := hequal.dataType_eq.trans (dataType_kept t v)
  refine ⟨htype, ⟨v', hback, ?_⟩, ?_⟩
  · rw [← hv.same_kept_iff, same_iff_rank hvtype (by rwa [hvtype]),
      same_iff_rank (dataType_kept t v) (by rwa [dataType_kept]), hequal.rank_eq]
  intro u x hu hutype hx hxw
  obtain ⟨hconverts', hxtype⟩ := converts_of_coerce? hu ht hx
  obtain ⟨u', hback', hequal'⟩ := hconverts'.exists_back hu
  rw [hxtype] at hequal'
  -- `x` and `w` are equal, so they are equal once they are converted back
  have hrel : Option.Rel Equal (some u') (some v') := by
    rw [← hback, ← hback', hutype]
    exact (equal_of_same hxw (by rwa [hxtype])).coerce? hstring
  have hmiddle : u'.Equal v' := by cases hrel; assumption
  have hkept : (u.kept t).rank = (v.kept t).rank := by
    calc (u.kept t).rank = u'.rank := hequal'.rank_eq.symm
      _ = v'.rank := hmiddle.rank_eq
      _ = (v.kept t).rank := hequal.rank_eq
  have hktype : (u.kept t).dataType = (v.kept t).dataType := by
    rw [dataType_kept, dataType_kept, hutype]
  have hsame : (u.kept t).same (v.kept t) :=
    (same_iff_rank hktype (by rwa [dataType_kept, hutype])).2 hkept
  exact same_iff_of_same_kept hutype hsame

/-- The decimal `15.00` and the integer 15; a leap second and its literal. -/
theorem coerce?_back_cases :
    ((decimal ⟨1500, 2⟩).coerce? .integer = some (integer 15) ∧
      (∃ v', (integer 15).coerce? .decimal = some v' ∧ v'.same (decimal ⟨1500, 2⟩)) ∧
      (decimal ⟨150, 1⟩).same (decimal ⟨1500, 2⟩)) ∧
    ∃ v', (string "9999-12-31T23:59:60.500Z".toList).coerce? .dateTime = some v' ∧
      v'.same (dateTime ⟨⟨9999, 12, 31, by decide⟩, 86399, 1500000000, by decide⟩) := by
  have hnumber := coerce?_back (v := decimal ⟨1500, 2⟩) (t := .integer) (w := integer 15)
    trivial DataType.noConfusion rfl
  obtain ⟨d, hd, hdsame⟩ := hnumber.2.1
  have hplain : Calendar.IsPlainYear 9999 := by decide
  have hleap := coerce?_back (t := .string)
    (v := dateTime ⟨⟨9999, 12, 31, by decide⟩, 86399, 1500000000, by decide⟩)
    hplain DataType.noConfusion rfl
  obtain ⟨i, hi, hisame⟩ := hleap.2.1
  refine ⟨⟨rfl, ⟨d, hd, hdsame.2 DataType.noConfusion⟩, ?_⟩, i, hi, hisame.2 fun _ _ => rfl⟩
  exact (hnumber.2.2 (decimal ⟨150, 1⟩) _ trivial rfl rfl rfl).2 DataType.noConfusion

/-- An instant whose time no clock shows and the one that is shown instead become one string, which
    converts back to the latter. -/
theorem exists_coerce?_not_back : ∃ w, (dateTime .overrun).IsPlain ∧
    (dateTime .overrun).coerce? .string = some w ∧
    (dateTime Instant.overrun.shown).coerce? .string = some w ∧
    (∃ v', w.coerce? .dateTime = some v' ∧ ¬ v'.same (dateTime .overrun)) ∧
    ¬ (dateTime Instant.overrun.shown).same (dateTime .overrun) := by
  have hplain : Calendar.IsPlainYear 2024 := by decide
  have hback : (string "2024-01-05T10:30:01.500Z".toList).coerce? .dateTime =
      some (dateTime Instant.overrun.shown) := by decide +kernel
  have hsame : ¬ (dateTime Instant.overrun.shown).same (dateTime .overrun) := by decide
  exact ⟨string "2024-01-05T10:30:01.500Z".toList, hplain, by decide +kernel, by decide +kernel,
    ⟨_, hback, hsame⟩, hsame⟩

end ResourceQuery.Value
