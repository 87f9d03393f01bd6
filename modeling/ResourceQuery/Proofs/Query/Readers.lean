/-
  Resource queries — what the readers of a clause accept.

  Each reader is tied to the tokens it reads to the end of its clause: values
  (`readMoreValues_eq_ok`, `readValues_eq_ok`), a criterion (`readCriterion_eq_ok`) and the
  arguments of a directive (`readArguments_eq_ok`, `arguments_eq_ok`).  Positions decide
  nothing but the errors.
-/
import ResourceQuery.Proofs.Outcome
import ResourceQuery.Proofs.Token.Content
import ResourceQuery.Query.Grammar
import ResourceQuery.Query.Parser

namespace ResourceQuery

open Outcome Token

/-! ## Tokens with commas between them -/

section
variable {α : Type} {Denotes : Token → α → Prop}

/-- What may follow one of several: nothing, or a comma and the others. -/
inductive Continued (Denotes : Token → α → Prop) : List Token → List α → Prop
  | done : Continued Denotes [] []
  | comma {ts : List Token} {as : List α} :
      Separated Denotes ts as → Continued Denotes (.comma :: ts) as

theorem separated_iff {ts : List Token} {as : List α} :
    Separated Denotes ts as ↔ ∃ t us a bs, ts = t :: us ∧ as = a :: bs ∧
      Denotes t a ∧ Continued Denotes us bs := by
  constructor
  · rintro (h | ⟨h, hs⟩)
    · exact ⟨_, _, _, _, rfl, rfl, h, .done⟩
    · exact ⟨_, _, _, _, rfl, rfl, h, .comma hs⟩
  · rintro ⟨t, us, a, bs, rfl, rfl, h, hc⟩
    cases hc with
    | done => exact .one h
    | comma hs => exact .more h hs

theorem Separated.ne_nil {ts : List Token} {as : List α} (h : Separated Denotes ts as) :
    as ≠ [] := by cases h <;> simp

theorem Separated.imp {Denotes' : Token → α → Prop} {ts : List Token} {as : List α}
    (h : Separated Denotes ts as) (hd : ∀ t ∈ ts, ∀ a ∈ as, Denotes t a → Denotes' t a) :
    Separated Denotes' ts as := by
  induction h with
  | one h => exact .one (hd _ (by simp) _ (by simp) h)
  | more h _ ih =>
    refine .more (hd _ (by simp) _ (by simp) h) (ih fun t ht a ha => hd t ?_ a ?_)
    · exact List.mem_cons_of_mem _ (List.mem_cons_of_mem _ ht)
    · exact List.mem_cons_of_mem _ ha

end

namespace Query

/-! ## Values -/

theorem literal?_eq_some {t : Token} {l : Literal} : literal? t = some l ↔ Literal.Written t l := by
  constructor
  · intro h
    cases t <;> cases h
    · exact .quoted _
    · exact .bare _
  · rintro (_ | _) <;> rfl

theorem readMoreValues_eq_ok {limit taken : Nat} {target : Target} {c : Clause}
    {ts : List Located} {ls : List Literal} :
    readMoreValues limit target c taken ts = .ok (ls, []) ↔
      Continued Literal.Written (ofLocated ts) ls ∧ (ls = [] ∨ taken + ls.length ≤ limit) := by
  fun_induction readMoreValues limit target c taken ts generalizing ls with
  | case1 taken start stop t ts hl =>
    constructor
    · rintro ⟨⟩
    · rintro ⟨h, _⟩
      cases h with
      | comma h =>
        obtain ⟨_, _, l, _, ⟨⟩, -, h, -⟩ := separated_iff.1 h
        rw [literal?_eq_some.2 h] at hl; cases hl
  | case2 taken start stop t ts l hl hlimit =>
    constructor
    · rintro ⟨⟩
    · rintro ⟨h, hn⟩
      cases h with
      | comma h =>
        have := List.length_pos_of_ne_nil h.ne_nil
        rcases hn with rfl | hn
        · exact absurd rfl h.ne_nil
        · omega
  | case3 taken start stop t ts l hl hlimit ih =>
    simp only [map_eq_ok, Prod.exists, ofLocated_cons, Prod.mk.injEq]
    constructor
    · rintro ⟨ls, _, h, rfl, rfl⟩
      obtain ⟨h, hn⟩ := ih.1 h
      refine ⟨.comma (separated_iff.2 ⟨_, _, _, _, rfl, rfl, literal?_eq_some.1 hl, h⟩), .inr ?_⟩
      rcases hn with rfl | hn <;> simp only [List.length_cons, List.length_nil] <;> omega
    · rintro ⟨h, hn⟩
      cases h with
      | comma h =>
        obtain ⟨_, _, l', ls, ⟨⟩, rfl, h, hc⟩ := separated_iff.1 h
        rw [literal?_eq_some.2 h, Option.some.injEq] at hl
        refine ⟨ls, [], ih.2 ⟨hc, .inr ?_⟩, by rw [hl], rfl⟩
        have hn := hn.resolve_left (List.cons_ne_nil _ _)
        simp only [List.length_cons] at hn; omega
  | case4 taken start stop =>
    constructor
    · rintro ⟨⟩
    · rintro ⟨h, _⟩
      cases h with
      | comma h => cases h
  | case5 taken ts h₁ h₂ =>
    simp only [Except.ok.injEq, Prod.mk.injEq]
    constructor
    · rintro ⟨rfl, rfl⟩
      exact ⟨.done, .inl rfl⟩
    · rintro ⟨h, _⟩
      match ts, h with
      | [], .done => exact ⟨rfl, rfl⟩
      | [⟨.comma, start, stop⟩], _ => exact absurd rfl (h₂ start stop)
      | ⟨.comma, start, stop⟩ :: t :: ts, _ => exact absurd rfl (h₁ start stop t ts)

/-- The values of an operator: none, or as many as the limit allows and at least one. -/
theorem readValues_eq_ok {limit : Nat} {target : Target} {op : Operator} {c : Clause}
    {ts : List Located} {ls : List Literal} :
    readValues limit target op c ts = .ok (ls, []) ↔
      (op.arity = .zero ∧ ts = [] ∧ ls = []) ∨
        (op.arity ≠ .zero ∧ Separated Literal.Written (ofLocated ts) ls ∧
          ls.length ≤ max 1 limit) := by
  unfold readValues
  split
  · rename_i h
    simp only [h, true_and, ne_eq, not_true_eq_false, false_and, or_false]
    cases ts with
    | nil => simp [eq_comm]
    | cons t ts =>
      simp only [reduceCtorEq, false_and, iff_false]
      split <;> simp
  · rename_i h
    simp only [h, false_and, false_or, ne_eq, not_false_eq_true, true_and, bind_eq_ok, Prod.exists]
    cases ts with
    | nil =>
      refine ⟨fun ⟨_, _, h, _⟩ => (nomatch h), fun ⟨h, _⟩ => (nomatch h)⟩
    | cons t ts =>
      simp only [readValue, pure_eq_ok, Prod.mk.injEq]
      constructor
      · rintro ⟨l, ts', hl, ls, _, hls, rfl, rfl⟩
        split at hl
        · rename_i l' hl'
          obtain ⟨rfl, rfl⟩ := Prod.mk.inj (Except.ok.inj hl)
          obtain ⟨hc, hn⟩ := readMoreValues_eq_ok.1 hls
          refine ⟨separated_iff.2 ⟨_, _, _, _, rfl, rfl, literal?_eq_some.1 hl', hc⟩, ?_⟩
          rcases hn with rfl | hn <;> simp only [List.length_cons, List.length_nil] <;> omega
        · cases hl
      · rintro ⟨h, hn⟩
        obtain ⟨_, _, l, ls, ⟨⟩, rfl, hl, hc⟩ := separated_iff.1 h
        refine ⟨l, ts, by rw [literal?_eq_some.2 hl], ls, [], readMoreValues_eq_ok.2 ⟨hc, ?_⟩,
          rfl, rfl⟩
        cases ls with
        | nil => exact .inl rfl
        | cons l' ls => simp only [List.length_cons] at hn ⊢; right; omega

theorem make_eq_ok {target : Target} {op : Operator} {ls : List Literal} {c : Criterion} :
    Criterion.make target op ls = .ok c ↔ c.target = target ∧ c.operator = op ∧ c.literals = ls := by
  unfold Criterion.make
  split
  · rename_i h
    obtain ⟨target', op', ls', _⟩ := c
    simp only [Except.ok.injEq, Criterion.mk.injEq, eq_comm]
  · rename_i h
    refine ⟨fun h => (nomatch h), ?_⟩
    rintro ⟨-, rfl, rfl⟩
    exact absurd c.accepted h

/-- An operator without values accepts none. -/
theorem literals_eq_nil {c : Criterion} (h : c.operator.arity = .zero) : c.literals = [] := by
  have := c.accepted
  rw [h] at this
  exact List.length_eq_zero_iff.1 (by simpa [Arity.accepts] using this)

/-- What stands after the target of a criterion. -/
theorem readCriterion_eq_ok {limit : Nat} {target : Target} {c : Clause} {ts : List Located}
    {criterion : Criterion} :
    readCriterion limit target c ts = .ok (criterion, []) ↔
      criterion.target = target ∧ ∃ us, ofLocated ts = .operator criterion.operator :: us ∧
        ((criterion.operator.arity = .zero ∧ us = []) ∨
          (criterion.operator.arity ≠ .zero ∧ Separated Literal.Written us criterion.literals ∧
            criterion.literals.length ≤ max 1 limit)) := by
  unfold readCriterion
  split
  · rename_i op start stop ts
    simp only [bind_eq_ok, Prod.exists, ofLocated_cons, List.cons.injEq, Token.operator.injEq]
    constructor
    · rintro ⟨ls, rest, hv, h⟩
      split at h
      · rename_i criterion' hm
        obtain ⟨rfl, rfl⟩ := Prod.mk.inj (pure_eq_ok.1 h)
        obtain ⟨ht, rfl, rfl⟩ := make_eq_ok.1 hm
        refine ⟨ht, _, ⟨rfl, rfl⟩, ?_⟩
        rcases readValues_eq_ok.1 hv with ⟨ha, rfl, -⟩ | hv
        · exact .inl ⟨ha, rfl⟩
        · exact .inr hv
      · cases h
    · rintro ⟨ht, _, ⟨rfl, rfl⟩, h⟩
      refine ⟨criterion.literals, [], readValues_eq_ok.2 ?_, ?_⟩
      · exact h.imp (fun ⟨ha, hts⟩ => ⟨ha, ofLocated_eq_nil.1 hts, literals_eq_nil ha⟩) id
      · rw [make_eq_ok.2 ⟨ht, rfl, rfl⟩]; rfl
  · rename_i hts
    constructor
    · rintro ⟨⟩
    · rintro ⟨_, us, h, _⟩
      obtain ⟨start, stop, rest, rfl, -⟩ := ofLocated_eq_cons.1 h
      exact absurd rfl (hts _ start stop rest)

/-! ## Arguments -/

/-- The words between the parentheses of a directive; a field would do as well. -/
theorem readArguments_eq_ok {name : Text} {c : Clause} {first : Bool} {ts : List Located}
    {ws : List Text} :
    (∃ as, readArguments name c first ts = .ok (as, []) ∧ as.map Prod.fst = ws) ↔
      ∃ us, ofLocated ts = us ++ [.close] ∧ Separated (fun t w => word? t = some w) us ws := by
  fun_induction readArguments name c first ts generalizing ws with
  | case1 first =>
    constructor
    · rintro ⟨_, ⟨⟩, _⟩
    · rintro ⟨us, h, hs⟩
      simp at h
  | case2 first t w hw =>
    constructor
    · rintro ⟨_, ⟨⟩, _⟩
    · rintro ⟨us, h, hs⟩
      obtain ⟨_, us, _, _, rfl, -⟩ := separated_iff.1 hs
      simp at h
  | case3 first t hw =>
    constructor
    · rintro ⟨_, ⟨⟩, _⟩
    · rintro ⟨us, h, hs⟩
      obtain ⟨_, us, _, _, rfl, -⟩ := separated_iff.1 hs
      simp at h
  | case4 first t t' ts hw =>
    constructor
    · rintro ⟨_, ⟨⟩, _⟩
    · rintro ⟨us, h, hs⟩
      obtain ⟨_, us, _, _, rfl, -, hd, -⟩ := separated_iff.1 hs
      obtain ⟨rfl, -⟩ := List.cons.inj h
      rw [hd] at hw; cases hw
  | case5 first t t' ts w hw ht' ih =>
    constructor
    · rintro ⟨_, h, rfl⟩
      obtain ⟨⟨as, rest⟩, h, heq⟩ := map_eq_ok.1 h
      obtain ⟨rfl, rfl⟩ := Prod.mk.inj heq
      obtain ⟨us, hus, hs⟩ := ih.1 ⟨as, h, rfl⟩
      exact ⟨t.token :: .comma :: us, by simp [ht', hus], .more hw hs⟩
    · rintro ⟨us, h, hs⟩
      obtain ⟨_, us, w', ws, rfl, rfl, hd, hc⟩ := separated_iff.1 hs
      obtain ⟨rfl, hrest⟩ := List.cons.inj h
      rw [hw, Option.some.injEq] at hd
      cases hc with
      | done => simp [ht'] at hrest
      | comma hs =>
        obtain ⟨as, has, rfl⟩ := ih.2 ⟨_, (List.cons.inj hrest).2, hs⟩
        exact ⟨(w, t.start) :: as, by rw [has]; rfl, by rw [← hd]; rfl⟩
  | case6 first t t' ts w hw ht' =>
    constructor
    · rintro ⟨_, h, rfl⟩
      obtain ⟨rfl, rfl⟩ := Prod.mk.inj (Except.ok.inj h)
      exact ⟨[t.token], by simp [ht'], .one hw⟩
    · rintro ⟨us, h, hs⟩
      obtain ⟨_, us, w', ws, rfl, rfl, hd, hc⟩ := separated_iff.1 hs
      obtain ⟨rfl, hrest⟩ := List.cons.inj h
      rw [hw, Option.some.injEq] at hd
      cases hc with
      | done =>
        rw [ofLocated_eq_nil.1 (List.cons.inj hrest).2]
        exact ⟨_, rfl, by rw [← hd]; rfl⟩
      | comma hs => simp [ht'] at hrest
  | case7 first t t' ts w hw h₁ h₂ =>
    constructor
    · rintro ⟨_, ⟨⟩, _⟩
    · rintro ⟨us, h, hs⟩
      obtain ⟨_, us, w', ws, rfl, rfl, hd, hc⟩ := separated_iff.1 hs
      obtain ⟨-, hrest⟩ := List.cons.inj h
      cases hc with
      | done => exact absurd (List.cons.inj hrest).1 h₂
      | comma hs => exact absurd (List.cons.inj hrest).1 h₁

section
variable {α : Type} {read : Argument → Except ParseError α} {P : Text → α → Prop}

theorem separated_forall₂ {us : List Token} {ws : List Text} {bs : List α}
    (hs : Separated (fun t w => word? t = some w) us ws) (h : List.Forall₂ P ws bs) :
    Separated (fun t b => ∃ w, word? t = some w ∧ P w b) us bs := by
  induction hs generalizing bs with
  | one ht =>
    cases h with
    | cons hb h => cases h; exact .one ⟨_, ht, hb⟩
  | more ht _ ih =>
    cases h with
    | cons hb h => exact .more ⟨_, ht, hb⟩ (ih h)

theorem exists_forall₂ {us : List Token} {bs : List α}
    (hs : Separated (fun t b => ∃ w, word? t = some w ∧ P w b) us bs) :
    ∃ ws, Separated (fun t w => word? t = some w) us ws ∧ List.Forall₂ P ws bs := by
  induction hs with
  | one h =>
    obtain ⟨w, ht, hb⟩ := h
    exact ⟨[w], .one ht, .cons hb .nil⟩
  | more h _ ih =>
    obtain ⟨w, ht, hb⟩ := h
    obtain ⟨ws, hs, h⟩ := ih
    exact ⟨w :: ws, .more ht hs, .cons hb h⟩

theorem not_operator_mem {us : List Token} {bs : List α}
    (hs : Separated (fun t b => ∃ w, word? t = some w ∧ P w b) us bs) (op : Operator) :
    .operator op ∉ us := by
  induction hs with
  | one h => obtain ⟨w, hw, -⟩ := h; rintro (_ | ⟨_, ⟨⟩⟩); cases hw
  | more h _ ih => obtain ⟨w, hw, -⟩ := h; rintro (_ | ⟨_, _ | ⟨_, h⟩⟩) <;> [cases hw; exact ih h]

/-- An argument is followed by a comma or by the closing parenthesis, and by no operator. -/
theorem not_fieldsOperated {path : Text} {us : List Token} {bs : List α}
    (hs : Separated (fun t b => ∃ w, word? t = some w ∧ P w b) us bs)
    (hp : .field path ∈ us) : ¬ FieldsOperated (us ++ [.close]) := by
  intro hf
  obtain ⟨before, after, rfl⟩ := List.mem_iff_append.1 hp
  obtain ⟨op, rest, h⟩ := hf before path (after ++ [.close]) (by simp)
  have hop : .operator op ∈ after := by
    cases after with
    | nil => cases h
    | cons t after => rw [(List.cons.inj h).1]; exact List.mem_cons_self
  exact absurd (List.mem_append_right before (List.mem_cons_of_mem _ hop)) (not_operator_mem hs op)

/-- No argument is a field, since no operator follows it. -/
theorem separated_bare {us : List Token} {bs : List α} (hf : FieldsOperated (us ++ [.close]))
    (hs : Separated (fun t b => ∃ w, word? t = some w ∧ P w b) us bs) :
    Separated (fun t b => ∃ w, t = .bare w ∧ P w b) us bs := by
  refine hs.imp fun t ht b _ ⟨w, hw, hb⟩ => ?_
  cases t with
  | bare w' => exact ⟨w, by rw [Option.some.inj hw], hb⟩
  | field path => exact absurd hf (not_fieldsOperated hs ht)
  | _ => cases hw

theorem arguments_eq_ok (hread : ∀ a b, read a = .ok b ↔ P a.1 b) {name : Text} {c : Clause}
    {ts : List Located} {bs : List α} :
    (∃ as, readArguments name c true ts = .ok (as, []) ∧ as.mapM read = .ok bs) ↔
      ∃ us, ofLocated ts = us ++ [.close] ∧
        Separated (fun t b => ∃ w, word? t = some w ∧ P w b) us bs := by
  simp only [mapM_eq_ok, hread]
  constructor
  · rintro ⟨as, has, h⟩
    obtain ⟨us, hus, hs⟩ := readArguments_eq_ok.1 ⟨as, has, rfl⟩
    exact ⟨us, hus, separated_forall₂ hs (List.forall₂_map_left_iff.2 h)⟩
  · rintro ⟨us, hus, hs⟩
    obtain ⟨ws, hs, h⟩ := exists_forall₂ hs
    obtain ⟨as, has, rfl⟩ := readArguments_eq_ok.2 ⟨us, hus, hs⟩
    exact ⟨as, has, List.forall₂_map_left_iff.1 h⟩

/-- The arguments of a directive with what each of them denotes. -/
theorem arguments_written {Denotes : Token → α → Prop}
    (hbare : ∀ t b, Denotes t b → ∃ w, t = .bare w)
    (hread : ∀ a b, read a = .ok b ↔ Denotes (.bare a.1) b) {name : Text} {c : Clause}
    {ts : List Located} (hf : FieldsOperated (ofLocated ts)) {bs : List α} :
    (∃ as, readArguments name c true ts = .ok (as, []) ∧ as.mapM read = .ok bs) ↔
      ∃ us, ofLocated ts = us ++ [.close] ∧ Separated Denotes us bs := by
  rw [arguments_eq_ok (P := fun w => Denotes (.bare w)) hread]
  refine exists_congr fun us => and_congr_right fun hus => ⟨fun hs => ?_, fun hs => ?_⟩
  · refine (separated_bare (hus ▸ hf) hs).imp fun t _ b _ ⟨w, ht, hb⟩ => ?_
    rw [ht]; exact hb
  · refine hs.imp ?_
    intro t _ b _ hb
    obtain ⟨w, rfl⟩ := hbare t b hb
    exact ⟨w, rfl, hb⟩

end

theorem exists_bare_of_target (t : Token) (target : Target) (h : Target.Written t target) :
    ∃ w, t = .bare w := by
  cases h
  exact ⟨_, rfl⟩

theorem exists_bare_of_key (t : Token) (key : SortKey) (h : SortKey.Written t key) :
    ∃ w, t = .bare w := by
  cases h <;> exact ⟨_, rfl⟩

theorem exists_bare_of_count (t : Token) (n : UInt64) (h : Page.CountWritten t n) :
    ∃ w, t = .bare w := by
  cases h
  exact ⟨_, rfl⟩

theorem argumentTarget_eq_ok {a : Argument} {target : Target} :
    argumentTarget a = .ok target ↔ Target.Written (.bare a.1) target := by
  unfold argumentTarget
  split
  · rename_i target' h
    rw [Except.ok.injEq]
    exact ⟨fun ht => .bare (ht ▸ h), fun | .bare h' => Except.ok.inj (h.symm.trans h')⟩
  · rename_i h
    exact ⟨fun h => (nomatch h), fun | .bare h' => (nomatch h.symm.trans h')⟩

theorem argumentKey_eq_ok {a : Argument} {key : SortKey} :
    argumentKey a = .ok key ↔ SortKey.Written (.bare a.1) key := by
  fun_cases argumentKey a with
  | case1 w position =>
    simp only [map_eq_ok, argumentTarget_eq_ok]
    constructor
    · rintro ⟨_, ⟨h⟩, rfl⟩
      exact .minus h
    · rintro (⟨_, h, _⟩ | _ | h)
      · exact absurd rfl h
      · exact ⟨_, .bare h, rfl⟩
  | case2 w position =>
    simp only [map_eq_ok, argumentTarget_eq_ok]
    constructor
    · rintro ⟨_, ⟨h⟩, rfl⟩
      exact .plus h
    · rintro (⟨h, _, _⟩ | h | _)
      · exact absurd rfl h
      · exact ⟨_, .bare h, rfl⟩
  | case3 a hminus hplus =>
    obtain ⟨w, position⟩ := a
    simp only [map_eq_ok, argumentTarget_eq_ok]
    constructor
    · rintro ⟨_, ⟨h⟩, rfl⟩
      refine .unsigned (fun hw => ?_) (fun hw => ?_) h
      · obtain ⟨w, rfl⟩ := List.head?_eq_some_iff.1 hw
        exact hplus w position rfl
      · obtain ⟨w, rfl⟩ := List.head?_eq_some_iff.1 hw
        exact hminus w position rfl
    · rintro (⟨_, _, h⟩ | _ | _)
      · exact ⟨_, .bare h, rfl⟩
      · exact absurd rfl (hplus _ position)
      · exact absurd rfl (hminus _ position)

theorem argumentCount_eq_ok {a : Argument} {n : UInt64} :
    argumentCount a = .ok n ↔ Page.CountWritten (.bare a.1) n := by
  unfold argumentCount
  split
  · rename_i n' h
    rw [Except.ok.injEq]
    exact ⟨fun hn => .bare (hn ▸ h), fun | .bare h' => Option.some.inj (h.symm.trans h')⟩
  · rename_i h
    exact ⟨fun h => (nomatch h), fun | .bare h' => (nomatch h.symm.trans h')⟩

end Query

end ResourceQuery
