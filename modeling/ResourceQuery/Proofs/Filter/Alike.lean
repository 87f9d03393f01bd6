/-
  Resource queries — filters of criteria that denote the same.

  * `Literal.Alike`, `Criterion.Alike`, `Comparison.Alike`: the same parts, with values that are
    alike.
  * `Filter.Alike`: the same tests, and expressions of comparisons that are alike one by one;
    such expressions have the same text (`Alike.text_eq`).
  * `build_agrees`: criteria that are alike one by one are refused with the same error or give
    filters that are alike.
-/
import ResourceQuery.Proofs.Filter.Equal
import ResourceQuery.Proofs.Filter.Expression
import ResourceQuery.Proofs.Value.Alike

namespace ResourceQuery

open Outcome

/-- Whether two literals have values that are alike and the same text beside them. -/
structure Literal.Alike (l m : Literal) : Prop where
  value : l.value.Alike m.value
  bare : l.bare = m.bare

/-- Whether two criteria differ at most in values that are alike. -/
structure Criterion.Alike (c d : Criterion) : Prop where
  target : c.target = d.target
  operator : c.operator = d.operator
  literals : List.Forall₂ Literal.Alike c.literals d.literals

/-- Whether two comparisons differ at most in values that are alike. -/
structure Comparison.Alike (c d : Comparison) : Prop where
  target : c.target = d.target
  dataType : c.dataType = d.dataType
  nullable : c.nullable = d.nullable
  operator : c.operator = d.operator
  values : List.Forall₂ Value.Alike c.values d.values

variable {S : Schema} {e : S.Entity}

/-- Whether two filters have the same tests and comparisons that are alike. -/
structure Filter.Alike (f g : Filter S e) : Prop where
  tests : f.tests = g.tests
  comparisons : ∃ cs ds, List.Forall₂ Comparison.Alike cs ds ∧
    f.expression = Expression.ofComparisons cs ∧ g.expression = Expression.ofComparisons ds

namespace Filter

/-! ## Criteria -/

/-- What compiling a criterion gives: a comparison up to values that are alike, and the test. -/
def CompiledAlike (x y : Comparison × (S.Item e → Bool)) : Prop :=
  x.1.Alike y.1 ∧ x.2 = y.2

variable {l m : Literal} {c d : Criterion} {wildcard : Option Char} {path : Path S e}

theorem convert_agrees (h : l.Alike m) (t : DataType) :
    Agree Value.Alike (convert path t l) (convert path t m) := by
  have htext : l.text = m.text := by rw [Literal.text, Literal.text, h.bare, h.value.literal_eq]
  by_cases ht : t = .string
  · subst ht
    rw [convert_string, convert_string, htext]
    exact .ok (.refl _)
  · have hrel := h.value.coerce? t
    rw [convert_of_ne_string ht, convert_of_ne_string ht, htext]
    generalize l.value.coerce? t = x at hrel
    generalize m.value.coerce? t = y at hrel
    cases hrel with
    | none => exact .error _
    | some h => exact .ok h

theorem compileField_agrees (h : c.Alike d) (t : DataType) :
    Agree CompiledAlike (compileField wildcard path t c) (compileField wildcard path t d) := by
  obtain ⟨target, op, literals, accepted⟩ := c
  obtain ⟨target', op', literals', accepted'⟩ := d
  obtain ⟨htarget, hop, hliterals⟩ := h
  dsimp only at htarget hop hliterals
  subst htarget hop
  rw [compileField, compileField]
  dsimp only
  split
  · exact .error _
  split
  · exact .error _
  refine (Agree.mapM hliterals fun l m hl => convert_agrees hl t).bind fun vs ws hvalues => ?_
  have hsorted : List.Forall₂ Value.Alike (if op = .between then sortBounds vs else vs)
      (if op = .between then sortBounds ws else ws) := by
    split
    · exact sortBounds_forall₂ (fun _ _ hv => hv.equal) hvalues
    · exact hvalues
  exact .ok ⟨⟨rfl, rfl, rfl, rfl, hsorted⟩,
    fieldTest_eq (hsorted.imp fun _ _ hv => hv.equal) wildcard path t op⟩

theorem compileReference_agrees (h : c.Alike d) :
    Agree CompiledAlike (compileReference path c) (compileReference path d) := by
  rw [compileReference, compileReference, h.operator, h.target]
  split
  · exact .ok ⟨⟨rfl, rfl, rfl, rfl, .nil⟩, rfl⟩
  · exact .error _

theorem compile_agrees (h : c.Alike d) :
    Agree (CompiledAlike (S := S) (e := e)) (compile wildcard c) (compile wildcard d) := by
  rw [compile, compile, h.target]
  refine (agree_eq (S.resolve e d.target)).bind ?_
  rintro path _ rfl
  split
  · exact compileReference_agrees h
  · exact compileField_agrees h _

/-! ## Filters -/

theorem alike_all : Alike (all : Filter S e) all := ⟨rfl, [], [], .nil, rfl, rfl⟩

theorem addCriterion_agrees {f g : Filter S e} (hfg : f.Alike g) (h : c.Alike d) :
    Agree Alike (f.addCriterion wildcard c) (g.addCriterion wildcard d) := by
  obtain ⟨htests, cs, ds, hcs, hf, hg⟩ := hfg
  refine (compile_agrees h).bind fun x y hxy => .ok ⟨?_, cs ++ [x.1], ds ++ [y.1], ?_, ?_, ?_⟩
  · rw [htests, hxy.2]
  · exact List.rel_append hcs (.cons hxy.1 .nil)
  · rw [hf]
    exact Expression.and_ofComparisons cs [x.1]
  · rw [hg]
    exact Expression.and_ofComparisons ds [y.1]

/-- Criteria that are alike have the same error or filters that are alike. -/
theorem build_agrees {as bs : List Criterion} (h : List.Forall₂ Criterion.Alike as bs) :
    Agree (Alike (S := S) (e := e)) (build wildcard as) (build wildcard bs) :=
  Agree.foldlM (f := addCriterion wildcard) (g := addCriterion wildcard)
    (fun _ _ _ _ hfg hcd => addCriterion_agrees hfg hcd) h alike_all

end Filter

/-! ## Texts -/

theorem Value.Alike.quoted_eq {v w : Value} (h : v.Alike w) : v.quoted = w.quoted := by
  cases h with
  | refl => rfl
  | decimal _ hl => exact hl

theorem Value.map_quoted_eq {vs ws : List Value} (h : List.Forall₂ Alike vs ws) :
    vs.map quoted = ws.map quoted := by
  induction h with
  | nil => rfl
  | cons hv _ ih => rw [List.map_cons, List.map_cons, hv.quoted_eq, ih]

theorem Comparison.Alike.text_eq {c d : Comparison} (h : c.Alike d) : c.text = d.text := by
  have hvalues := Value.map_quoted_eq h.values
  have hfirst : c.firstText = d.firstText := by
    rw [firstText, firstText, ← List.head?_map, ← List.head?_map, hvalues]
  have hsecond : c.secondText = d.secondText := by
    rw [secondText, secondText, ← List.getElem?_map, ← List.getElem?_map, hvalues]
  have hlist : c.listText = d.listText := by rw [listText, listText, hvalues]
  rw [text, text, h.target, conditionText, conditionText, h.operator, hfirst, hsecond, hlist]

namespace Filter

theorem Alike.accepts_eq {f g : Filter S e} (h : f.Alike g) : f.accepts = g.accepts := by
  ext x : 1
  rw [accepts, accepts, h.tests]

/-- The expressions of filters that are alike read the same. -/
theorem Alike.text_eq {f g : Filter S e} (h : f.Alike g) :
    f.expression.text = g.expression.text := by
  obtain ⟨cs, ds, hcs, hf, hg⟩ := h.comparisons
  have hparts :
      Expression.partTexts (cs.map .compare) = Expression.partTexts (ds.map .compare) := by
    clear hf hg
    induction hcs with
    | nil => rfl
    | cons hc _ ih =>
      simp only [List.map_cons, Expression.partTexts, Expression.text, hc.text_eq, ih]
  rw [hf, hg]
  cases hcs with
  | nil => rfl
  | cons hc hrest =>
    cases hrest with
    | nil => exact hc.text_eq
    | cons hd hrest => exact congrArg (Text.joinWith " AND ".toList) hparts

end Filter

end ResourceQuery
