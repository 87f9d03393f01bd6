/-
  Resource queries — filters and their expressions.

  * `Expression.ofComparisons`: the normal form of a conjunction: what always holds, a single
    comparison, or at least two of them side by side.
  * `Expression.and_ofComparisons`: conjunctions of normal forms are normal.
  * `Filter.Agrees`: a filter has the normal form of comparisons that describe its tests one by
    one.  Every filter that a builder gives does (`Built.agrees`).
  * `Built.accepts_iff_holds`: what passes such a filter is what its expression holds for.
-/
import ResourceQuery.Proofs.Filter.Comparison

namespace ResourceQuery

open Outcome

variable {S : Schema} {e : S.Entity} {wildcard : Option Char}

/-! ## Normal forms -/

namespace Expression

/-- The normal form of the expression that comparisons hold together. -/
def ofComparisons : List Comparison → Expression
  | [] => always
  | [c] => compare c
  | cs => all (cs.map compare)

theorem ofComparisons_cons_cons (a b : Comparison) (cs : List Comparison) :
    ofComparisons (a :: b :: cs) = all (compare a :: compare b :: cs.map compare) := rfl

theorem and_ofComparisons (as bs : List Comparison) :
    (ofComparisons as).and (ofComparisons bs) = ofComparisons (as ++ bs) := by
  match as, bs with
  | [], bs => rw [List.nil_append, ofComparisons, and]
  | [a], [] => rfl
  | [a], [b] => rfl
  | [a], b :: b' :: bs => rfl
  | a :: a' :: as, [] => rw [List.append_nil]; rfl
  | a :: a' :: as, [b] =>
    simp only [ofComparisons_cons_cons, List.cons_append, List.map_append]
    rfl
  | a :: a' :: as, b :: b' :: bs =>
    simp only [ofComparisons_cons_cons, List.cons_append, List.map_append]
    rfl

theorem ofComparisons_eq_always {cs : List Comparison} : ofComparisons cs = always ↔ cs = [] := by
  match cs with
  | [] | [c] | _ :: _ :: _ => simp [ofComparisons]

theorem ofComparisons_eq_compare {cs : List Comparison} :
    (∃ c, ofComparisons cs = compare c) ↔ cs.length = 1 := by
  match cs with
  | [] | [c] | _ :: _ :: _ => simp [ofComparisons]

theorem ofComparisons_eq_all {cs : List Comparison} :
    (∃ parts, ofComparisons cs = all parts) ↔ 2 ≤ cs.length := by
  match cs with
  | [] | [c] | _ :: _ :: _ => simp [ofComparisons]

theorem allHold_map {x : S.Item e} (cs : List Comparison) :
    AllHold wildcard x (cs.map compare) ↔ ∀ c ∈ cs, c.Holds wildcard x := by
  induction cs with
  | nil => simp [AllHold]
  | cons c cs ih => simp [AllHold, Holds, ih]

theorem holds_ofComparisons {x : S.Item e} (cs : List Comparison) :
    (ofComparisons cs).Holds wildcard x ↔ ∀ c ∈ cs, c.Holds wildcard x := by
  match cs with
  | [] => simp [ofComparisons, Holds]
  | [c] => simp [ofComparisons, Holds]
  | a :: b :: cs => rw [ofComparisons_cons_cons, ← allHold_map (a :: b :: cs), Holds]; rfl

end Expression

namespace Filter

/-! ## Agreement -/

/-- Whether the expression of a filter is the normal form of comparisons that describe the
    tests of the filter one by one. -/
def Agrees (wildcard : Option Char) (f : Filter S e) : Prop :=
  ∃ cs, List.Forall₂ (Comparison.Describes wildcard) cs f.tests ∧
    f.expression = Expression.ofComparisons cs

theorem agrees_all : Agrees wildcard (all : Filter S e) := ⟨[], .nil, rfl⟩

theorem Agrees.and {f g : Filter S e} (hf : f.Agrees wildcard) (hg : g.Agrees wildcard) :
    (f.and g).Agrees wildcard := by
  obtain ⟨as, has, hfe⟩ := hf
  obtain ⟨bs, hbs, hge⟩ := hg
  refine ⟨as ++ bs, List.rel_append has hbs, ?_⟩
  show f.expression.and g.expression = _
  rw [hfe, hge, Expression.and_ofComparisons]

/-- One more criterion adds its comparison and its test. -/
theorem Agrees.addCriterion {f g : Filter S e} {c : Criterion} (hf : f.Agrees wildcard)
    (h : f.addCriterion wildcard c = .ok g) : g.Agrees wildcard := by
  obtain ⟨⟨comparison, test⟩, hc, h⟩ := bind_eq_ok.1 h
  rw [← pure_eq_ok.1 h]
  have hone : Agrees wildcard ⟨.compare comparison, [test]⟩ :=
    ⟨[comparison], .cons (compile_describes hc) .nil, rfl⟩
  exact hf.and hone

theorem Built.agrees {f : Filter S e} (h : f.Built wildcard) : f.Agrees wildcard := by
  induction h with
  | all => exact agrees_all
  | build h => exact foldlM_invariant (fun _ _ _ hf h => hf.addCriterion h) agrees_all h
  | and _ _ hf hg => exact hf.and hg

/-- Comparisons that describe tests hold together where all tests accept. -/
theorem all_iff_of_describes {cs : List Comparison} {tests : List (S.Item e → Bool)}
    (h : List.Forall₂ (Comparison.Describes wildcard) cs tests) (x : S.Item e) :
    tests.all (· x) ↔ ∀ c ∈ cs, c.Holds wildcard x := by
  induction h with
  | nil => simp
  | cons hc _ ih => rw [List.all_cons, Bool.and_eq_true, ih, hc x, List.forall_mem_cons]

/-- What passes a filter is what its expression holds for; and the expression is in normal form,
    with one comparison for each test that says what the test does. -/
theorem Built.accepts_iff_holds {f : Filter S e} (h : f.Built wildcard) :
    (∀ x, f.accepts x ↔ f.expression.Holds wildcard x) ∧
      (∃ cs, List.Forall₂ (Comparison.Describes wildcard) cs f.tests ∧
        f.expression = Expression.ofComparisons cs) ∧
      (f.expression = .always ↔ f.isAll) ∧
      ((∃ c, f.expression = .compare c) ↔ f.tests.length = 1) ∧
      ((∃ parts, f.expression = .all parts) ↔ 2 ≤ f.tests.length) := by
  obtain ⟨cs, hcs, hexpr⟩ := h.agrees
  have hlength := hcs.length_eq
  refine ⟨fun x => ?_, ⟨cs, hcs, hexpr⟩, ?_, ?_, ?_⟩
  · rw [hexpr, Expression.holds_ofComparisons]
    exact all_iff_of_describes hcs x
  · rw [hexpr, Expression.ofComparisons_eq_always, isAll, List.isEmpty_iff,
      ← List.length_eq_zero_iff, hlength, List.length_eq_zero_iff]
  · simp only [hexpr, Expression.ofComparisons_eq_compare, hlength]
  · simp only [hexpr, Expression.ofComparisons_eq_all, hlength]

/-- An entity with one property, an age that may be missing. -/
def ages : Schema where
  Entity := Unit
  Item _ := Option Int64
  properties _ := [.field "age".toList (Field.of id)]

/-- An age between bounds that come in the wrong order. -/
def ageBetween : Criterion :=
  ⟨⟨["age".toList], by decide⟩, .between, [.ofValue (.integer 30), .ofValue (.integer 18)],
    by decide⟩

/-- The age between bounds, and again. -/
theorem accepts_iff_holds_ages : ∃ f : Filter ages (), f.Built none ∧ f.tests.length = 2 ∧
    (∀ x, f.accepts x ↔ f.expression.Holds none x) ∧
    (∃ parts, f.expression = .all parts) := by
  have hlength : (build (S := ages) (e := ()) none [ageBetween]).map (·.tests.length) = .ok 1 := by
    decide +kernel
  cases h : build (S := ages) (e := ()) none [ageBetween] with
  | error e => rw [h] at hlength; cases hlength
  | ok f =>
    rw [h] at hlength
    have hf : f.tests.length = 1 := Except.ok.inj hlength
    have hbuilt : (f.and f).Built none := .and (.build h) (.build h)
    have htwo : (f.and f).tests.length = 2 := by simp [Filter.and, hf]
    obtain ⟨hholds, -, -, -, hall⟩ := hbuilt.accepts_iff_holds
    exact ⟨_, hbuilt, htwo, hholds, hall.2 (Nat.le_of_eq htwo.symm)⟩

end Filter

end ResourceQuery
