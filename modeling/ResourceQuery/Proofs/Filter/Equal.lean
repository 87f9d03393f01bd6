/-
  Resource queries — filters of equal criteria.

  * `Literal.Equal`, `Criterion.Equal`: the same parts, with values that are equal.
  * `fieldTest_eq`: equal values make the same test of a property.
  * `Criterion.SeenAlike`: a property of strings sees the same texts in two criteria.
  * `build_related`: equal criteria are refused with the same fault, or give filters with the
    same tests where properties of strings see the same texts.
  * `build_of_same`: so do two queries that ask for the same.
-/
import ResourceQuery.Filter.Builder
import ResourceQuery.Proofs.Outcome
import ResourceQuery.Proofs.Query.RoundTrip
import ResourceQuery.Proofs.Value.Equal

namespace ResourceQuery

open Outcome

variable {S : Schema} {e : S.Entity}

/-! ## Values of comparisons -/

namespace Filter

variable {vs ws : List Value}

theorem any_same_eq (h : List.Forall₂ Value.Equal vs ws) (actual : Value) :
    vs.any actual.same = ws.any actual.same := by
  induction h with
  | nil => rfl
  | cons hv _ ih => rw [List.any_cons, List.any_cons, hv.same_eq, ih]

/-- Equal values are in the same relation to a value. -/
theorem satisfies_eq (h : List.Forall₂ Value.Equal vs ws) (actual : Value) (op : Operator) :
    satisfies actual op vs = satisfies actual op ws := by
  have hcmp {v w : Value} (hv : v.Equal w) : actual.cmp? v = actual.cmp? w :=
    (Value.Equal.refl actual).cmp?_eq hv
  cases op with
  | oneOf => exact any_same_eq h actual
  | noneOf => exact congrArg not (any_same_eq h actual)
  | between =>
    cases h with
    | nil => rfl
    | cons hlow h =>
      cases h with
      | nil => rfl
      | cons hhigh _ =>
        simp only [satisfies, Value.isAtLeast, Value.isAtMost, hcmp hlow, hcmp hhigh]
  | like => rfl
  | isNull => rfl
  | isNotNull => rfl
  | _ =>
    cases h with
    | nil => rfl
    | cons hv _ =>
      simp only [satisfies, Value.isGreater, Value.isAtLeast, Value.isLess, Value.isAtMost,
        hcmp hv, hv.same_eq]

/-- Bounds that are equal are put into the same order. -/
theorem sortBounds_forall₂ {R : Value → Value → Prop} (hR : ∀ v w, R v w → v.Equal w)
    (h : List.Forall₂ R vs ws) : List.Forall₂ R (sortBounds vs) (sortBounds ws) := by
  cases h with
  | nil => exact .nil
  | @cons a a' vs ws ha h =>
    cases h with
    | nil => exact .cons ha .nil
    | @cons b b' vs ws hb h =>
      cases h with
      | nil =>
        have hgreater : a.isGreater b = a'.isGreater b' := by
          rw [Value.isGreater, Value.isGreater, (hR _ _ ha).cmp?_eq (hR _ _ hb)]
        rw [sortBounds, sortBounds, hgreater]
        by_cases hswap : a'.isGreater b'
        · rw [if_pos hswap, if_pos hswap]
          exact .cons hb (.cons ha .nil)
        · rw [if_neg hswap, if_neg hswap]
          exact .cons ha (.cons hb .nil)
      | cons hc h => exact .cons ha (.cons hb (.cons hc h))

theorem fieldTest_eq (h : List.Forall₂ Value.Equal vs ws) (wildcard : Option Char)
    (path : Path S e) (t : DataType) (op : Operator) :
    fieldTest wildcard path t op vs = fieldTest wildcard path t op ws := by
  have hcomparison : comparisonTest path op vs = comparisonTest path op ws := by
    ext x : 1
    simp only [comparisonTest, satisfies_eq h]
  have hlike : likeTestAt wildcard path vs = likeTestAt wildcard path ws := by
    ext x : 1
    cases h with
    | nil => rfl
    | cons hv _ => simp only [likeTestAt, List.head?_cons, Option.bind_some, hv.text?_eq]
  cases op with
  | like => exact hlike
  | isNull => rfl
  | isNotNull => rfl
  | _ => exact hcomparison

end Filter

/-! ## Literals -/

/-- The text of a literal that a property of strings sees. -/
def Literal.text (l : Literal) : Text := l.bare.getD l.value.literal

/-- Whether two literals have equal values and the same text beside them. -/
structure Literal.Equal (l m : Literal) : Prop where
  value : l.value.Equal m.value
  bare : l.bare = m.bare

/-- Whether two criteria differ at most in decimals that are one number. -/
structure Criterion.Equal (c d : Criterion) : Prop where
  target : c.target = d.target
  operator : c.operator = d.operator
  literals : List.Forall₂ Literal.Equal c.literals d.literals

/-- Whether a property of strings of the entity, where the first criterion names one, sees the
    same texts in both. -/
def Criterion.SeenAlike (S : Schema) (e : S.Entity) (c d : Criterion) : Prop :=
  ∀ path : Path S e, S.resolve e c.target = .ok path → path.dataType? = some .string →
    c.literals.map Literal.text = d.literals.map Literal.text

/-- Whether two errors differ at most in the text of a literal that cannot be converted. -/
inductive Error.SameFault : Error → Error → Prop
  | refl (error : Error) : SameFault error error
  | coercion {field : Text} {expected : DataType} {s t : Text} :
      SameFault (.coercion field expected s) (.coercion field expected t)

namespace Filter

variable {path : Path S e} {l m : Literal} {ls ms : List Literal}

theorem convert_string (path : Path S e) (l : Literal) :
    convert path .string l = .ok (.string l.text) := by
  obtain ⟨v, bare⟩ := l
  cases bare with
  | some w => rfl
  | none => cases v <;> rfl

theorem convert_of_ne_string {t : DataType} (ht : t ≠ .string) :
    convert path t l = (l.value.coerce? t).elim (.error (.coercion path.text t l.text)) .ok := by
  rw [convert]
  · cases l.value.coerce? t <;> rfl
  · rintro _ _ rfl
    exact ht rfl

theorem mapM_convert_string (path : Path S e) (ls : List Literal) :
    ls.mapM (convert path .string) = .ok ((ls.map Literal.text).map .string) := by
  rw [mapM_eq_ok, List.map_map, List.forall₂_map_right_iff, List.forall₂_same]
  exact fun l _ => convert_string path l

theorem convert_related (h : l.Equal m) {t : DataType} (ht : t ≠ .string) :
    Related Error.SameFault Value.Equal (convert path t l) (convert path t m) := by
  have hrel := h.value.coerce? ht
  rw [convert_of_ne_string ht, convert_of_ne_string ht]
  generalize l.value.coerce? t = x at hrel
  generalize m.value.coerce? t = y at hrel
  cases hrel with
  | none => exact .error .coercion
  | some h => exact .ok h

/-- Equal literals are converted to equal values, where a property of strings sees the same. -/
theorem mapM_convert_related (h : List.Forall₂ Literal.Equal ls ms) (t : DataType) :
    Related Error.SameFault
      (fun vs ws => (t = .string → ls.map Literal.text = ms.map Literal.text) →
        List.Forall₂ Value.Equal vs ws)
      (ls.mapM (convert path t)) (ms.mapM (convert path t)) := by
  by_cases ht : t = .string
  · subst ht
    rw [mapM_convert_string, mapM_convert_string]
    refine .ok fun hseen => ?_
    rw [hseen rfl]
    exact List.forall₂_same.2 fun v _ => .refl v
  · exact (Related.mapM h fun l m hl => convert_related hl ht).mono fun vs ws hvalues _ => hvalues

/-! ## Criteria -/

variable {wildcard : Option Char} {c d : Criterion}

theorem compileField_related (h : c.Equal d) (t : DataType) :
    Related Error.SameFault
      (fun x y => (t = .string → c.literals.map Literal.text = d.literals.map Literal.text) →
        x.2 = y.2)
      (compileField wildcard path t c) (compileField wildcard path t d) := by
  rw [compileField, compileField, h.operator]
  split
  · exact .error (.refl _)
  split
  · exact .error (.refl _)
  refine (mapM_convert_related h.literals t).bind fun vs ws hvalues => .ok fun hseen => ?_
  have hsorted : List.Forall₂ Value.Equal
      (if d.operator = .between then sortBounds vs else vs)
      (if d.operator = .between then sortBounds ws else ws) := by
    split
    · exact sortBounds_forall₂ (fun _ _ hv => hv) (hvalues hseen)
    · exact hvalues hseen
  exact fieldTest_eq hsorted wildcard path t d.operator

theorem compileReference_related (h : c.Equal d) :
    Related Error.SameFault (fun x y => x.2 = y.2) (compileReference path c)
      (compileReference path d) := by
  rw [compileReference, compileReference, h.operator]
  split
  · exact .ok rfl
  · exact .error (.refl _)

theorem compile_related (h : c.Equal d) :
    Related Error.SameFault (fun x y => c.SeenAlike S e d → x.2 = y.2)
      (compile (S := S) (e := e) wildcard c) (compile wildcard d) := by
  rw [compile, compile, h.target]
  cases hpath : S.resolve e d.target with
  | error error => exact .error (.refl _)
  | ok path =>
    simp only [bind, Except.bind]
    cases htype : path.dataType? with
    | none => exact (compileReference_related h).mono fun x y hxy _ => hxy
    | some t =>
      refine (compileField_related h t).mono fun x y hxy hseen => hxy fun ht => ?_
      exact hseen path (h.target ▸ hpath) (ht ▸ htype)

/-! ## Filters -/

/-- Criteria that are equal one by one fail with the same fault, or make the same tests where
    properties of strings see the same. -/
theorem foldlM_addCriterion_related {as bs : List Criterion}
    (h : List.Forall₂ Criterion.Equal as bs) (f g : Filter S e) :
    Related Error.SameFault
      (fun f' g' => List.Forall₂ (Criterion.SeenAlike S e) as bs → f.tests = g.tests →
        f'.tests = g'.tests)
      (as.foldlM (addCriterion wildcard) f) (bs.foldlM (addCriterion wildcard) g) := by
  induction h generalizing f g with
  | nil => exact .ok fun _ htests => htests
  | @cons c d as bs hc _ ih =>
    have hstep : Related Error.SameFault
        (fun f' g' => c.SeenAlike S e d → f.tests = g.tests → f'.tests = g'.tests)
        (addCriterion wildcard f c) (addCriterion wildcard g d) := by
      refine (compile_related hc).bind fun x y hxy => .ok fun hseen htests => ?_
      show f.tests ++ [x.2] = g.tests ++ [y.2]
      rw [htests, hxy hseen]
    rw [List.foldlM_cons, List.foldlM_cons]
    refine hstep.bind fun f' g' hfg => (ih f' g').mono fun f'' g'' hrest hseen htests => ?_
    obtain ⟨hcd, hmore⟩ := List.forall₂_cons.1 hseen
    exact hrest hmore (hfg hcd htests)

theorem build_related {as bs : List Criterion} (h : List.Forall₂ Criterion.Equal as bs) :
    Related Error.SameFault
      (fun f g : Filter S e => List.Forall₂ (Criterion.SeenAlike S e) as bs → f.tests = g.tests)
      (build wildcard as) (build wildcard bs) :=
  (foldlM_addCriterion_related h all all).mono fun _ _ hfg hseen => hfg hseen rfl

end Filter

/-! ## Queries -/

/-- No word denotes a float. -/
theorem Value.infer_dataType_ne_float (w : Text) : (infer w).dataType ≠ .float := by
  rw [infer]
  cases h : inferTyped? w with
  | none => exact DataType.noConfusion
  | some v =>
    rintro hfloat
    cases v <;> cases hfloat
    simp [inferTyped?, Option.orElse_eq_or, Option.or_eq_some_iff] at h

namespace Criterion

theorem forall₂_of_sameAll {α : Type} {same : α → α → Bool} {R : α → α → Prop} {as bs : List α}
    (h : sameAll same as bs) (hR : ∀ a ∈ as, ∀ b, same a b → R a b) : List.Forall₂ R as bs := by
  induction as generalizing bs with
  | nil =>
    cases bs with
    | nil => exact .nil
    | cons b bs => cases h
  | cons a as ih =>
    cases bs with
    | nil => cases h
    | cons b bs =>
      rw [sameAll, Bool.and_eq_true] at h
      refine .cons (hR a List.mem_cons_self b h.1) (ih h.2 fun a' ha' => ?_)
      exact hR a' (List.mem_cons_of_mem _ ha')

/-- Criteria that ask for the same, floats apart, are equal. -/
theorem equal_of_same {c d : Criterion} (h : c.same d)
    (hfloat : ∀ l ∈ c.literals, l.value.dataType ≠ .float) : c.Equal d := by
  rw [same, Bool.and_eq_true, Bool.and_eq_true, beq_iff_eq, beq_iff_eq] at h
  refine ⟨h.1.2, h.1.1, forall₂_of_sameAll h.2 fun l hl m hlm => ?_⟩
  rw [Literal.same, Bool.and_eq_true, beq_iff_eq] at hlm
  exact ⟨Value.equal_of_same hlm.1 (hfloat l hl), hlm.2⟩

end Criterion

namespace Query

theorem dataType_ne_float_of_parse {settings : Settings} {text : Text} {q : Query}
    (h : parse settings text = .ok q) {c : Criterion} (hc : c ∈ q.criteria) :
    ∀ l ∈ c.literals, l.value.dataType ≠ .float := by
  intro l hl
  obtain ⟨_, _, -, -, hw⟩ := exists_written_of_parse h hc hl
  cases hw with
  | quoted t => exact DataType.noConfusion
  | bare w => exact Value.infer_dataType_ne_float w

variable {settings : Settings} {text : Text} {q q' : Query}

/-- **Queries that ask for the same are interchangeable but for how decimals are written.**  Their
    criteria are refused with the same fault or give two filters; and these accept the same items
    where properties of strings see the same texts. -/
theorem build_of_same (hq : parse settings text = .ok q) (hsame : q.same q') (S : Schema)
    (e : S.Entity) (wildcard : Option Char) :
    Related Error.SameFault
      (fun f g : Filter S e =>
        List.Forall₂ (Criterion.SeenAlike S e) q.criteria q'.criteria →
          ∀ x, f.accepts x = g.accepts x)
      (Filter.build wildcard q.criteria) (Filter.build wildcard q'.criteria) := by
  simp only [same, Bool.and_eq_true] at hsame
  have hcriteria : List.Forall₂ Criterion.Equal q.criteria q'.criteria :=
    Criterion.forall₂_of_sameAll hsame.1.1.2 fun c hc d hcd =>
      Criterion.equal_of_same hcd (dataType_ne_float_of_parse hq hc)
  refine (Filter.build_related hcriteria).mono fun f g hfg hseen x => ?_
  rw [Filter.accepts, Filter.accepts, hfg hseen]

/-- An entity with a label and a price. -/
def wares : Schema where
  Entity := Unit
  Item _ := Text × Decimal
  properties _ :=
    [.field "label".toList (Field.of Prod.fst), .field "price".toList (Field.of Prod.snd)]

/-- The label of a ware. -/
def label : Target := ⟨["label".toList], by decide⟩

/-- The price of a ware. -/
def price : Target := ⟨["price".toList], by decide⟩

/-- A query for the items that have a decimal in a property. -/
def withDecimal (target : Target) (d : Decimal) : Query where
  criteria := [⟨target, .equal, [.ofValue (.decimal d)], rfl⟩]

/-- A price is a number, however it is written. -/
theorem build_of_same_price :
    parse .standard "price=eq=1.5".toList = .ok (withDecimal price ⟨15, 1⟩) ∧
      (withDecimal price ⟨15, 1⟩).same (withDecimal price ⟨150, 2⟩) ∧
      ∃ f g : Filter wares (), Filter.build none (withDecimal price ⟨15, 1⟩).criteria = .ok f ∧
        Filter.build none (withDecimal price ⟨150, 2⟩).criteria = .ok g ∧
        ∀ x, f.accepts x = g.accepts x := by
  have hparse : parse .standard "price=eq=1.5".toList = .ok (withDecimal price ⟨15, 1⟩) := by
    decide +kernel
  have hsame : (withDecimal price ⟨15, 1⟩).same (withDecimal price ⟨150, 2⟩) := by decide +kernel
  have hseen : List.Forall₂ (Criterion.SeenAlike wares ()) (withDecimal price ⟨15, 1⟩).criteria
      (withDecimal price ⟨150, 2⟩).criteria := by
    refine .cons (fun path hpath htype => ?_) .nil
    cases hpath
    cases htype
  have hbuild : (Filter.build (S := wares) (e := ()) none (withDecimal price ⟨15, 1⟩).criteria).map
      (fun f => f.tests.length) = .ok 1 := by decide +kernel
  obtain ⟨f, hf, -⟩ := map_eq_ok.1 hbuild
  have hrel := build_of_same hparse hsame wares () none
  rw [hf] at hrel
  cases hg : Filter.build (S := wares) (e := ()) none (withDecimal price ⟨150, 2⟩).criteria with
  | error error =>
    rw [hg] at hrel
    cases hrel
  | ok g =>
    rw [hg] at hrel
    cases hrel with
    | ok h => exact ⟨hparse, hsame, f, g, hf, rfl, h hseen⟩

/-- A label is compared as it is written, so equal queries can accept different items. -/
theorem exists_same_accepts_ne :
    parse .standard "label=eq=1.5".toList = .ok (withDecimal label ⟨15, 1⟩) ∧
      parse .standard "label=eq=1.50".toList = .ok (withDecimal label ⟨150, 2⟩) ∧
      (withDecimal label ⟨15, 1⟩).same (withDecimal label ⟨150, 2⟩) ∧
      ∃ f g : Filter wares (), Filter.build none (withDecimal label ⟨15, 1⟩).criteria = .ok f ∧
        Filter.build none (withDecimal label ⟨150, 2⟩).criteria = .ok g ∧
        ∃ x, f.accepts x = true ∧ g.accepts x = false := by
  have hf : (Filter.build (S := wares) (e := ()) none (withDecimal label ⟨15, 1⟩).criteria).map
      (fun f => f.accepts ("1.5".toList, .ofInt 0)) = .ok true := by decide +kernel
  have hg : (Filter.build (S := wares) (e := ()) none (withDecimal label ⟨150, 2⟩).criteria).map
      (fun f => f.accepts ("1.5".toList, .ofInt 0)) = .ok false := by decide +kernel
  obtain ⟨f, hf, hfx⟩ := map_eq_ok.1 hf
  obtain ⟨g, hg, hgx⟩ := map_eq_ok.1 hg
  exact ⟨by decide +kernel, by decide +kernel, by decide +kernel, f, g, hf, hg, _, hfx, hgx⟩

end Query

end ResourceQuery
