/-
  Resource queries — where the errors of a clause stand.

  * `Clause.IsPlace`: the positions in a clause: those of its tokens, and its end.
  * `Cause.IsDetached`: the causes of a field without an operator and of a clause without tokens.
  * `Clause.Placed`: an error that has such a position, no clause yet and another cause.
  * `readValues_meets` to `readClause_meets`: every reader takes tokens of the clause and leaves
    tokens of the clause, or gives an error that is placed in it.
-/
import ResourceQuery.Proofs.Query.Statements

namespace ResourceQuery

open Outcome Token

namespace ParseError

/-- Whether a cause is that no operator follows a field, or that no token begins a clause. -/
def Cause.IsDetached : Cause → Prop
  | .missingOperator _ | .unexpectedEnd => True
  | _ => False

end ParseError

namespace Clause

variable {cause : ParseError.Cause} {c : Clause} {ts : List Located} {p : Nat}

/-- Whether a position is that of a token of the clause, or its end. -/
def IsPlace (c : Clause) (p : Nat) : Prop := p = c.stop ∨ ∃ t ∈ c.tokens, p = t.start

/-- Whether an error has a position in the clause, and neither a clause nor a text; and a cause
    other than that tokens are detached. -/
structure Placed (c : Clause) (e : ParseError) : Prop where
  clause : e.clause = none
  text : e.text = none
  position : ∃ p, e.position = some p ∧ c.IsPlace p
  attached : ¬ e.cause.IsDetached

theorem isPlace_start {t : Located} (h : t ∈ c.tokens) : c.IsPlace t.start := .inr ⟨t, h, rfl⟩

theorem isPlace_position (h : ts ⊆ c.tokens) : c.IsPlace (c.position ts) := by
  cases ts with
  | nil => exact .inl rfl
  | cons t ts => exact isPlace_start (h List.mem_cons_self)

theorem placed_located (h : c.IsPlace p) (hcause : ¬ cause.IsDetached) :
    c.Placed (.located cause p) := ⟨rfl, rfl, ⟨p, rfl, h⟩, hcause⟩

/-- A cause without a position is placed where it is told to be. -/
theorem placed_atPosition (h : c.IsPlace p) (hcause : ¬ cause.IsDetached) :
    c.Placed (ParseError.atPosition { cause } p) := ⟨rfl, rfl, ⟨p, rfl, h⟩, hcause⟩

end Clause

namespace Query

variable {c : Clause} {ts : List Located} {limit : Nat} {target : Target}

/-! ## Criteria -/

theorem noValue_placed (h : ts ⊆ c.tokens) : c.Placed (noValue c ts) := by
  cases ts with
  | nil => exact Clause.placed_located (.inl rfl) (by split <;> exact id)
  | cons t ts => exact Clause.placed_located (Clause.isPlace_start (h List.mem_cons_self)) id

theorem readValue_meets (h : ts ⊆ c.tokens) :
    Meets c.Placed (fun r => r.2 ⊆ c.tokens) (readValue c ts) := by
  fun_cases readValue c ts with
  | case1 => exact .error (noValue_placed h)
  | case2 t ts l hl => exact .ok (List.subset_of_cons_subset h)
  | case3 t ts hl => exact .error (noValue_placed h)

theorem readMoreValues_meets {taken : Nat} (h : ts ⊆ c.tokens) :
    Meets c.Placed (fun r => r.2 ⊆ c.tokens) (readMoreValues limit target c taken ts) := by
  fun_induction readMoreValues limit target c taken ts with
  | case1 taken start stop t ts hl => exact .error (noValue_placed (List.subset_of_cons_subset h))
  | case2 taken start stop t ts l hl hlimit =>
    have hrest := List.subset_of_cons_subset (List.subset_of_cons_subset h)
    exact .error (Clause.placed_located (Clause.isPlace_position hrest) id)
  | case3 taken start stop t ts l hl hlimit ih =>
    exact (ih (List.subset_of_cons_subset (List.subset_of_cons_subset h))).map fun _ hr => hr
  | case4 taken start stop => exact .error (noValue_placed (List.nil_subset _))
  | case5 taken ts => exact .ok h

theorem readValues_meets {op : Operator} (h : ts ⊆ c.tokens) :
    Meets c.Placed (fun r => r.2 ⊆ c.tokens) (readValues limit target op c ts) := by
  unfold readValues
  split
  · split
    · rename_i t rest
      split
      · exact .error (Clause.placed_located (Clause.isPlace_start (h List.mem_cons_self)) id)
      · exact .ok h
    · exact .ok h
  · refine (readValue_meets h).bind fun r hr => ?_
    exact (readMoreValues_meets hr).bind fun _ hrest => .ok hrest

theorem make_meets {op : Operator} {ls : List Literal} :
    Meets (fun e => ∃ cause, e = { cause } ∧ ¬ cause.IsDetached) (fun _ => True)
      (Criterion.make target op ls) := by
  unfold Criterion.make
  split
  · exact .ok trivial
  · exact .error ⟨_, rfl, id⟩

/-- A criterion is read from its operator on. -/
theorem readCriterion_meets {op : Operator} {us : List Token} (h : ts ⊆ c.tokens)
    (hop : ofLocated ts = .operator op :: us) :
    Meets c.Placed (fun r => r.2 ⊆ c.tokens) (readCriterion limit target c ts) := by
  obtain ⟨start, stop, rest, rfl, -⟩ := ofLocated_eq_cons.1 hop
  refine (readValues_meets (List.subset_of_cons_subset h)).bind fun ⟨ls, rest⟩ hr => ?_
  have hmake : Meets _ _ (Criterion.make target op ls) := make_meets
  dsimp only
  split
  · exact .ok hr
  · rename_i e he
    rw [he] at hmake
    obtain ⟨cause, rfl, hcause⟩ := hmake.of_error
    exact .error (Clause.placed_atPosition (Clause.isPlace_position hr) hcause)

/-! ## Directives -/

variable {name : Text} {first : Bool}

theorem noArgument_placed {t : Located} (h : t ∈ c.tokens) : c.Placed (noArgument name first t) :=
  Clause.placed_located (Clause.isPlace_start h) (by split <;> exact id)

theorem unclosed_placed {cause : Token → ParseError.Cause}
    (hcause : ¬ (cause .separator).IsDetached) : c.Placed (unclosed name c cause) :=
  Clause.placed_located (.inl rfl) (by split <;> [exact hcause; exact id])

theorem readArguments_meets (h : ts ⊆ c.tokens) :
    Meets c.Placed (fun r => r.2 ⊆ c.tokens ∧ ∀ a ∈ r.1, c.IsPlace a.2)
      (readArguments name c first ts) := by
  fun_induction readArguments name c first ts with
  | case1 first => exact .error (unclosed_placed id)
  | case2 first t w hw => exact .error (unclosed_placed id)
  | case3 first t hw => exact .error (noArgument_placed (h List.mem_cons_self))
  | case4 first t t' ts hw => exact .error (noArgument_placed (h List.mem_cons_self))
  | case5 first t t' ts w hw ht' ih =>
    have hrest := List.subset_of_cons_subset (List.subset_of_cons_subset h)
    refine (ih hrest).map fun r hr => ⟨hr.1, List.forall_mem_cons.2 ⟨?_, hr.2⟩⟩
    exact Clause.isPlace_start (h List.mem_cons_self)
  | case6 first t t' ts w hw ht' =>
    refine .ok ⟨List.subset_of_cons_subset (List.subset_of_cons_subset h), ?_⟩
    exact List.forall_mem_singleton.2 (Clause.isPlace_start (h List.mem_cons_self))
  | case7 first t t' ts w hw h₁ h₂ =>
    exact .error (Clause.placed_located (Clause.isPlace_start (h (by simp))) id)

theorem not_isDetached_of_fault? {path : Text} {cause : ParseError.Cause}
    (h : Target.fault? path = some cause) : ¬ cause.IsDetached := by
  unfold Target.fault? at h
  split at h
  · obtain rfl := Option.some.inj h
    exact id
  obtain ⟨name, -, hname⟩ := List.exists_of_findSome?_eq_some h
  unfold Target.nameFault? at hname
  split at hname
  · obtain rfl := Option.some.inj hname
    exact id
  · obtain ⟨c, -, rfl⟩ := Option.map_eq_some_iff.1 hname
    exact id

theorem read_meets {t : Text} :
    Meets (fun e => ∃ cause, e = { cause } ∧ ¬ cause.IsDetached) (fun _ => True)
      (Target.read t) := by
  unfold Target.read
  split
  · rename_i cause hcause
    exact .error ⟨_, rfl, not_isDetached_of_fault? hcause⟩
  · exact .ok trivial

theorem argumentTarget_meets {a : Argument} (h : c.IsPlace a.2) :
    Meets c.Placed (fun _ => True) (argumentTarget a) := by
  have hread : Meets _ _ (Target.read a.1) := read_meets
  unfold argumentTarget
  split
  · exact .ok trivial
  · rename_i e he
    rw [he] at hread
    obtain ⟨cause, rfl, hcause⟩ := hread.of_error
    exact .error (Clause.placed_atPosition h hcause)

theorem argumentKey_meets {a : Argument} (h : c.IsPlace a.2) :
    Meets c.Placed (fun _ => True) (argumentKey a) := by
  fun_cases argumentKey a <;>
    exact Meets.map (Q := fun _ => True) (argumentTarget_meets h) fun _ _ => trivial

theorem argumentCount_meets {a : Argument} (h : c.IsPlace a.2) :
    Meets c.Placed (fun _ => True) (argumentCount a) := by
  unfold argumentCount
  split
  · exact .ok trivial
  · exact .error (Clause.placed_located h id)

theorem readOnce_meets {start : Nat} {present : Bool} (hstart : c.IsPlace start)
    (h : ts ⊆ c.tokens) : Meets c.Placed (fun r => r.2 ⊆ c.tokens ∧ ∀ a ∈ r.1, c.IsPlace a.2)
      (readOnce name start present c ts) := by
  unfold readOnce
  split
  · exact .error (Clause.placed_located hstart id)
  · exact readArguments_meets h

theorem readDirective_meets {q : Query} {start : Nat} (hstart : c.IsPlace start)
    (h : ts ⊆ c.tokens) :
    Meets c.Placed (fun r => r.2 ⊆ c.tokens) (readDirective q name start c ts) := by
  unfold readDirective
  split_ifs
  · exact (readOnce_meets hstart h).bind fun r hr =>
      (Meets.mapM fun a ha => argumentTarget_meets (hr.2 a ha)).bind fun _ _ => .ok hr.1
  · exact (readOnce_meets hstart h).bind fun r hr =>
      (Meets.mapM fun a ha => argumentKey_meets (hr.2 a ha)).bind fun _ _ => .ok hr.1
  · refine (readOnce_meets hstart h).bind fun r hr =>
      (Meets.mapM fun a ha => argumentCount_meets (hr.2 a ha)).bind fun ns _ => ?_
    split
    · exact .ok hr.1
    · exact .ok hr.1
    · exact .error (Clause.placed_located hstart id)
  · exact .error (Clause.placed_located hstart id)

/-! ## Clauses -/

theorem readFront_meets {maxValues : Nat} {q : Query} (h : ts ⊆ c.tokens) (hne : ts ≠ [])
    (hf : FieldsOperated (ofLocated ts)) :
    Meets c.Placed (fun r => r.2 ⊆ c.tokens) (readFront maxValues q c ts) := by
  fun_cases readFront maxValues q c ts with
  | case1 => exact absurd rfl hne
  | case2 t ts path ht =>
    have hstart := Clause.isPlace_start (h List.mem_cons_self)
    obtain ⟨op, us, hop⟩ := hf [] path (ofLocated ts) (by rw [ofLocated_cons, ht]; rfl)
    refine (argumentTarget_meets hstart).bind fun target _ => ?_
    exact (readCriterion_meets (List.subset_of_cons_subset h) hop).bind fun _ hr => .ok hr
  | case3 t ts name ht =>
    exact readDirective_meets (Clause.isPlace_start (h List.mem_cons_self))
      (List.subset_of_cons_subset h)
  | case4 t ts text ht =>
    exact .error (Clause.placed_located (Clause.isPlace_start (h List.mem_cons_self)) id)
  | case5 t ts h₁ h₂ h₃ =>
    exact .error (Clause.placed_located (Clause.isPlace_start (h List.mem_cons_self)) id)

/-- What is wrong with a clause that has tokens is placed in it. -/
theorem readClause_meets {maxValues : Nat} {q : Query} (hne : c.tokens ≠ [])
    (hf : FieldsOperated (ofLocated c.tokens)) :
    Meets c.Placed (fun _ => True) (readClause maxValues q c) := by
  refine (readFront_meets (List.Subset.refl _) hne hf).bind fun r hr => ?_
  split
  · exact .ok trivial
  · rename_i t rest
    exact .error (Clause.placed_located (Clause.isPlace_start (hr List.mem_cons_self)) id)

end Query

end ResourceQuery
