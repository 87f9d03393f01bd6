/-
  Resource queries — the clauses among the tokens of a text.

  * `Clause.StandsAt`: the tokens of the clause of a given number, without empty ones, and the
    bytes at which it begins and ends.
  * `Clause.ofTokens_eq_append`: what stands in front of a clause has the clauses before it, and
    ends with a separator.
  * `Clause.start_le_of_covers`: the tokens of a clause start between its bytes.
  * `Clause.first_ne_operator`: no clause begins with an operator.
-/
import ResourceQuery.Proofs.Query.Grammar
import ResourceQuery.Proofs.Token.Front

namespace ResourceQuery

open Outcome Token

namespace Clause

/-! ## What stands around a clause -/

/-- Whether a clause may begin behind the tokens: there are none, or the last is a separator. -/
def Opens (ts : List Located) : Prop := ∀ t ∈ ts.getLast?, t.token = .separator

/-- The byte at which a clause ends in a text of `size` bytes, with the tokens `after` behind it. -/
def stopBefore (size : Nat) (after : List Located) : Nat := (after.head?.map (·.start)).getD size

/-- Whether a clause with tokens is the one of number `k`, counted from zero, among the tokens of
    a text of `size` bytes, where empty clauses do not count; and whether it begins at byte `b`
    and ends at byte `e`. -/
def StandsAt (size : Nat) (ts : List Located) (k b e : Nat) : Prop :=
  ∃ before first own after, ts = before ++ (first :: own) ++ after ∧
    Opens before ∧ (∀ t ∈ first :: own, t.token ≠ .separator) ∧ Separates after ∧
    (pieces (ofLocated before)).length = k ∧ b = first.start ∧ e = stopBefore size after

theorem opens_nil : Opens [] := fun _ h => nomatch h

theorem separates_nil : Separates [] := fun _ h => nomatch h

theorem Opens.cons {t : Located} {ts : List Located} (h : Opens ts)
    (ht : ts = [] → t.token = .separator) : Opens (t :: ts) := by
  intro u hu
  cases ts with
  | nil =>
    obtain rfl := Option.some.inj hu
    exact ht rfl
  | cons t' ts => exact h u hu

/-! ## Cutting -/

theorem eq_nil_of_cut {size : Nat} {ts : List Located}
    (h : cut size ts = [⟨[], size, false⟩]) : ts = [] := by
  cases ts with
  | nil => rfl
  | cons t ts =>
    obtain ⟨c, cs, hcut, -⟩ := cut_eq_cons size ts
    rw [cut, hcut] at h
    split at h <;> cases h

/-- What stands in front of a clause is cut into the clauses before it, and an empty one at its
    end. -/
theorem cut_eq_append {size : Nat} {ts : List Located} {pre post : List Clause} {c : Clause}
    (h : cut size ts = pre ++ c :: post) :
    ∃ before after, ts = before ++ c.tokens ++ after ∧
      cut size before = pre ++ [⟨[], size, false⟩] ∧ Opens before ∧
      (∀ t ∈ c.tokens, t.token ≠ .separator) ∧ Separates after ∧
      c.stop = stopBefore size after := by
  induction ts generalizing pre c with
  | nil =>
    cases pre with
    | cons p pre => simp [cut] at h
    | nil =>
      obtain ⟨rfl, -⟩ := List.cons.inj h
      exact ⟨[], [], rfl, rfl, opens_nil, List.forall_mem_nil _, separates_nil, rfl⟩
  | cons t ts ih =>
    obtain ⟨d, ds, hcut, -⟩ := cut_eq_cons size ts
    rw [cut] at h
    split at h
    case isTrue ht =>
      cases pre with
      | nil =>
        obtain ⟨rfl, -⟩ := List.cons.inj h
        refine ⟨[], t :: ts, rfl, rfl, opens_nil, List.forall_mem_nil _, ?_, rfl⟩
        rintro _ ⟨⟩
        exact ht
      | cons p pre =>
        obtain ⟨rfl, hrest⟩ := List.cons.inj h
        obtain ⟨before, after, rfl, hbefore, hopens, hown, hafter, hstop⟩ := ih hrest
        refine ⟨t :: before, after, rfl, ?_, hopens.cons fun _ => ht, hown, hafter, hstop⟩
        rw [cut, if_pos ht, hbefore]
        rfl
    case isFalse ht =>
      rw [hcut] at h ih
      cases pre with
      | nil =>
        -- the clause is the one that the token begins
        obtain ⟨rfl, rfl⟩ := List.cons.inj h
        obtain ⟨before, after, rfl, hbefore, hopens, hown, hafter, hstop⟩ := @ih [] d rfl
        obtain rfl := eq_nil_of_cut hbefore
        exact ⟨[], after, rfl, rfl, opens_nil, List.forall_mem_cons.2 ⟨ht, hown⟩, hafter, hstop⟩
      | cons p pre =>
        obtain ⟨rfl, rfl⟩ := List.cons.inj h
        obtain ⟨before, after, rfl, hbefore, hopens, hown, hafter, hstop⟩ := @ih (d :: pre) c rfl
        refine ⟨t :: before, after, rfl, ?_, hopens.cons fun hnil => ?_, hown, hafter, hstop⟩
        · rw [cut, if_neg ht, hbefore]
          rfl
        · rw [hnil] at hbefore
          cases pre <;> cases hbefore

/-- What stands in front of a clause has the clauses before it. -/
theorem ofTokens_eq_append {size : Nat} {ts : List Located} {done later : List Clause}
    {c : Clause} (h : ofTokens size ts = done ++ c :: later) :
    ∃ before first own after, c.tokens = first :: own ∧ ts = before ++ (first :: own) ++ after ∧
      ofTokens size before = done ∧ Opens before ∧
      (∀ t ∈ first :: own, t.token ≠ .separator) ∧ Separates after ∧
      c.stop = stopBefore size after := by
  obtain ⟨as, bs, hcut, hdone, hrest⟩ := List.filter_eq_append_iff.1 h
  obtain ⟨empty, post, rfl, hempty, hc, -⟩ := List.filter_eq_cons_iff.1 hrest
  rw [← List.append_assoc] at hcut
  obtain ⟨before, after, hts, hbefore, hopens, hown, hafter, hstop⟩ := cut_eq_append hcut
  cases htokens : c.tokens with
  | nil => simp [htokens] at hc
  | cons first own =>
    rw [htokens] at hts hown
    refine ⟨before, first, own, after, rfl, hts, ?_, hopens, hown, hafter, hstop⟩
    rw [ofTokens, hbefore, List.filter_append, List.filter_append, hdone,
      List.filter_eq_nil_iff.2 hempty]
    simp

theorem standsAt_of_ofTokens {size : Nat} {ts : List Located} {done later : List Clause}
    {c : Clause} (h : ofTokens size ts = done ++ c :: later) :
    StandsAt size ts done.length (c.position c.tokens) c.stop := by
  obtain ⟨before, first, own, after, htokens, hts, rfl, hopens, hown, hafter, hstop⟩ :=
    ofTokens_eq_append h
  refine ⟨before, first, own, after, hts, hopens, hown, hafter, ?_, by rw [htokens]; rfl, hstop⟩
  rw [← ofLocated_ofTokens size, List.length_map]

/-! ## Bytes -/

/-- The tokens of a clause start between its beginning and its end. -/
theorem start_le_of_covers {text : Text} {before own after : List Located} {first : Located}
    (h : Covers text (before ++ (first :: own) ++ after)) :
    ∀ t ∈ first :: own, first.start ≤ t.start ∧
      t.start ≤ stopBefore (Text.byteSize text) after := by
  intro t ht
  obtain ⟨hfront, -, hafter⟩ := List.pairwise_append.1 h.apart
  obtain ⟨-, hown, -⟩ := List.pairwise_append.1 hfront
  constructor
  · rcases List.mem_cons.1 ht with rfl | ht
    · exact le_rfl
    · exact ((List.pairwise_cons.1 hown).1 t ht).1.le
  · cases after with
    | nil =>
      obtain ⟨-, -, hlt, hle⟩ := h.within t (by simp [List.mem_cons.1 ht])
      exact hlt.le.trans hle
    | cons u after => exact (hafter t (List.mem_append_right _ ht) u List.mem_cons_self).1.le

/-- No clause begins with an operator. -/
theorem first_ne_operator {before after : List Located} {first : Located}
    (hnamed : OperatorsNamed (ofLocated (before ++ first :: after))) (hopens : Opens before)
    (op : Operator) : first.token ≠ .operator op := by
  intro hop
  rcases List.eq_nil_or_concat' before with rfl | ⟨before, t, rfl⟩
  · exact hnamed.first op (ofLocated after) (by rw [List.nil_append, ofLocated_cons, hop])
  · have hsep : t.token = .separator := hopens t (by simp)
    have hsplit : ofLocated (before ++ [t] ++ first :: after) =
        ofLocated before ++ .separator :: .operator op :: ofLocated after := by
      simp [hsep, hop]
    rcases hnamed.behind _ _ _ _ hsplit with ⟨w, h⟩ | ⟨w, h⟩ <;> cases h

end Clause

namespace Token

/-- A text with a separator among its tokens is no blank. -/
theorem trim_ne_nil_of_separator {text : Text} {ts : List Located} (h : tokenize text = .ok ts)
    {t : Located} (ht : t ∈ ts) (hsep : t.token = .separator) : Text.trim text ≠ [] := by
  obtain ⟨s, hread, hsub⟩ := exists_readFrom h ht
  rw [hsep] at hread
  rw [Ne, Text.trim_eq_nil]
  intro hblank
  cases hread with
  | semicolon => exact absurd (hblank ';' (hsub List.mem_cons_self)) (by decide)
  | ampersand => exact absurd (hblank '&' (hsub List.mem_cons_self)) (by decide)

end Token

end ResourceQuery
