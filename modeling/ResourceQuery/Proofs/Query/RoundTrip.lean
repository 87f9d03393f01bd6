/-
  Resource queries — reading a query that has been read.

  * `Value.needsQuotes_eq_false`: a string that stands without quotes is a word that denotes
    this string.
  * `Literal.rereadAs_of_written`: a literal that has been read is rendered as a token of the
    same literal, its value and the text beside it included.
  * `parse_render_of_parse`: a query that has been read is read again from its text.
-/
import Mathlib.Algebra.GroupWithZero.Nat
import ResourceQuery.Proofs.Query.Rendering

namespace ResourceQuery

open Outcome Token

/-! ## Strings and words -/

namespace Value

theorem eq_of_same_string {v : Value} {t : Text} (h : v.same (.string t)) : v = .string t := by
  cases v with
  | string s => rw [same, beq_iff_eq] at h; rw [h]
  | _ => cases h

theorem needsQuotes_eq_false {t : Text} (h : needsQuotes t = false) :
    Lexeme.IsWord t ∧ infer t = .string t := by
  simp only [needsQuotes, Bool.or_eq_false_iff, Bool.not_eq_false', List.any_eq_false,
    List.isEmpty_eq_false_iff] at h
  obtain ⟨⟨hne, hchars⟩, hsame⟩ := h
  refine ⟨⟨hne, fun c hc => ?_⟩, eq_of_same_string hsame⟩
  have hc : ¬ (Text.isBlank c || isReserved c) := hchars c hc
  simp only [Bool.or_eq_true, not_or] at hc
  have hgap : ¬ Text.isGap c := fun hg => hc.1 (Text.isBlank_of_isGap hg)
  have hreserved := hc.2
  simp only [isReserved, List.contains_eq_mem, List.mem_cons, List.not_mem_nil, or_false,
    decide_eq_true_eq, not_or] at hreserved
  simp [Lexeme.isWordChar, Lexeme.isQuote, hgap, hreserved]

/-- A word denotes a string only when it denotes itself. -/
theorem eq_of_infer_eq_string {w t : Text} (h : infer w = .string t) : t = w := by
  rw [infer] at h
  cases hi : inferTyped? w with
  | none => rw [hi] at h; exact (Value.string.inj h).symm
  | some v =>
    rw [hi, Option.getD_some] at h
    subst h
    simp [inferTyped?, Option.orElse_eq_or, Option.or_eq_some_iff] at hi

end Value

namespace Literal

theorem render_ofQuoted (t : Text) :
    (ofQuoted t).render = if needsQuotes t then Quoted.encode t else t := rfl

/-- A string is read as itself, whether it stands between quotes or not. -/
theorem rereadAs_ofQuoted (t : Text) : (ofQuoted t).RereadAs (ofQuoted t) := by
  rw [RereadAs, render_ofQuoted]
  cases h : needsQuotes t with
  | true => exact ⟨.quoted t, .quoted t, spells_encode t⟩
  | false =>
    obtain ⟨hword, hinfer⟩ := Value.needsQuotes_eq_false h
    have : ofQuoted t = ofWord t := by simp [ofQuoted, ofWord, hinfer, Value.literal]
    exact ⟨.bare t, this ▸ .bare t, spells_word hword⟩

/-- A word that denotes a string is taken like a string in quotes; every other word is rendered
    as it was written. -/
theorem ofWord_eq_or_render_eq (w : Text) : ofWord w = ofQuoted w ∨ (ofWord w).render = w := by
  by_cases hstring : ∃ t, Value.infer w = .string t
  · obtain ⟨t, ht⟩ := hstring
    obtain rfl := Value.eq_of_infer_eq_string ht
    exact .inl (by simp [ofQuoted, ofWord, ht, Value.literal])
  · right
    by_cases h : w = (Value.infer w).literal
    · have hv : (Value.infer w).render = (Value.infer w).literal := by
        cases hi : Value.infer w with
        | string t => exact absurd ⟨t, hi⟩ hstring
        | _ => rfl
      simp [render, ofWord, ← h, hv]
    · simp [render, ofWord, h]

/-- A word is read as what it denotes: it is rendered as it was written. -/
theorem rereadAs_ofWord {w : Text} (hw : Lexeme.IsWord w) : (ofWord w).RereadAs (ofWord w) := by
  rcases ofWord_eq_or_render_eq w with h | hrender
  · exact h ▸ rereadAs_ofQuoted w
  · exact ⟨.bare w, .bare w, by rw [hrender]; exact spells_word hw⟩

theorem rereadAs_of_written {text : Text} {ts : List Token} (hts : tokens? text = .ok ts)
    {t : Token} (ht : t ∈ ts) {l : Literal} (h : Written t l) : l.RereadAs l := by
  cases h with
  | quoted t => exact rereadAs_ofQuoted t
  | bare w => exact rereadAs_ofWord (isWord_of_bare hts ht)

end Literal

/-! ## Statements -/

theorem exists_mem_separated {α : Type} {Denotes : Token → α → Prop} {ts : List Token}
    {as : List α} (h : Separated Denotes ts as) {a : α} (ha : a ∈ as) :
    ∃ t ∈ ts, Denotes t a := by
  induction h with
  | one h => exact ⟨_, List.mem_cons_self, List.mem_singleton.1 ha ▸ h⟩
  | more h _ ih =>
    rcases List.mem_cons.1 ha with rfl | ha
    · exact ⟨_, List.mem_cons_self, h⟩
    · obtain ⟨t, ht, hd⟩ := ih ha
      exact ⟨t, List.mem_cons_of_mem _ (List.mem_cons_of_mem _ ht), hd⟩

namespace Statement

/-- Every literal of a criterion is written with a token of it. -/
theorem Written.exists_literal {ts : List Token} {c : Criterion} (h : Written ts (.criterion c))
    {l : Literal} (hl : l ∈ c.literals) : ∃ t ∈ ts, Literal.Written t l := by
  cases h with
  | unary _ ha => rw [Query.literals_eq_nil ha] at hl; cases hl
  | compared _ _ hs =>
    obtain ⟨t, ht, hw⟩ := exists_mem_separated hs hl
    exact ⟨t, List.mem_cons_of_mem _ (List.mem_cons_of_mem _ ht), hw⟩

/-- Statements counted with a weight, kind by kind. -/
theorem sum_map_eq (f : Statement → Nat) (ss : List Statement) :
    (ss.map f).sum = ((ss.filterMap columns?).map (f ∘ .columns)).sum +
      ((ss.filterMap criterion?).map (f ∘ .criterion)).sum +
      ((ss.filterMap keys?).map (f ∘ .sort)).sum + ((ss.filterMap page?).map (f ∘ .page)).sum := by
  induction ss with
  | nil => rfl
  | cons s ss ih =>
    cases s <;>
      simp only [List.filterMap_cons, columns?, criterion?, keys?, page?, List.map_cons,
        List.sum_cons, Function.comp_apply, ih] <;>
      omega

end Statement

namespace Query

theorem criterion_mem {q : Query} {c : Criterion} (h : .criterion c ∈ q.statements) :
    c ∈ q.criteria := by
  rw [← criteria_statements q]
  exact List.mem_filterMap.2 ⟨_, h, rfl⟩

/-- No clause is rendered that has not been read, whatever the clauses weigh. -/
theorem sum_statements_ofStatements_le (f : Statement → Nat) (ss : List Statement) :
    ((ofStatements ss).statements.map f).sum ≤ (ss.map f).sum := by
  rw [Statement.sum_map_eq f (ofStatements ss).statements, Statement.sum_map_eq f ss,
    columns_statements, criteria_statements, keys_statements, page_statements]
  have hcolumns : ((if (ofStatements ss).hasProjection then [(ofStatements ss).projection]
      else []).map (f ∘ .columns)).sum ≤
        ((ss.filterMap Statement.columns?).map (f ∘ .columns)).sum := by
    cases h : ss.filterMap Statement.columns? with
    | nil => simp [hasProjection, ofStatements, h]
    | cons => split <;> simp [ofStatements, h]
  have hkeys : ((if (ofStatements ss).hasSort then [(ofStatements ss).sort] else []).map
      (f ∘ .sort)).sum ≤ ((ss.filterMap Statement.keys?).map (f ∘ .sort)).sum := by
    cases h : ss.filterMap Statement.keys? with
    | nil => simp [hasSort, ofStatements, h]
    | cons => split <;> simp [ofStatements, h]
  have hpage : ((ofStatements ss).page.toList.map (f ∘ .page)).sum ≤
      ((ss.filterMap Statement.page?).map (f ∘ .page)).sum := by
    rw [ofStatements]
    cases ss.filterMap Statement.page? <;> simp
  have hcriteria : (ofStatements ss).criteria = ss.filterMap Statement.criterion? := rfl
  rw [hcriteria]
  omega

theorem length_statements_ofStatements_le (ss : List Statement) :
    (ofStatements ss).statements.length ≤ ss.length := by
  simpa using sum_statements_ofStatements_le (fun _ => 1) ss

/-- The statements of a query keep within the limits that those it has been read from do. -/
theorem within_statements {n : Nat} {ss : List Statement} (h : ∀ s ∈ ss, s.Within n) :
    ∀ s ∈ (ofStatements ss).statements, s.Within n := by
  intro s hs
  cases s with
  | criterion c =>
    obtain ⟨s, hs, hc⟩ := List.mem_filterMap.1 (criterion_mem hs)
    cases s <;> cases hc
    exact h _ hs
  | _ => trivial

/-- A query that has been read is that of statements which keep within the limits, and each of
    which is written as some tokens of the text. -/
theorem exists_statements_of_parse {settings : Settings} {text : Text} {q : Query}
    (h : parse settings text = .ok q) :
    ∃ ts ss, (ts = [] ∨ tokens? text = .ok ts) ∧
      List.Forall₂ Statement.Written (pieces ts) ss ∧ (∀ s ∈ ss, s.Within settings.maxValues) ∧
      ss.length ≤ settings.maxClauses ∧ q = ofStatements ss := by
  obtain ⟨-, h⟩ := parse_eq_ok_iff.1 h
  split at h
  · exact ⟨[], [], .inl rfl, .nil, fun s hs => (nomatch hs), Nat.zero_le _, h⟩
  · obtain ⟨ts, ss, hts, hwritten, hvalues, hclauses, -, hq⟩ := h
    exact ⟨ts, ss, .inr hts, hwritten, hvalues, hclauses, hq⟩

/-- Every literal of a query that has been read is written as some token of the text. -/
theorem exists_written_of_parse {settings : Settings} {text : Text} {q : Query}
    (h : parse settings text = .ok q) {c : Criterion} (hc : c ∈ q.criteria) {l : Literal}
    (hl : l ∈ c.literals) : ∃ ts t, tokens? text = .ok ts ∧ t ∈ ts ∧ Literal.Written t l := by
  obtain ⟨ts, ss, hts, hwritten, -, -, rfl⟩ := exists_statements_of_parse h
  obtain ⟨s, hs, hcs⟩ := List.mem_filterMap.1 hc
  cases s <;> cases hcs
  obtain ⟨p, hp, hw⟩ := forall₂_mem_right hwritten _ hs
  obtain ⟨t, ht, hwl⟩ := hw.exists_literal hl
  have hmem : t ∈ ts := (flatten_pieces_sublist ts).subset (List.mem_flatten.2 ⟨p, hp, ht⟩)
  exact ⟨ts, t, hts.resolve_left (List.ne_nil_of_mem hmem), hmem, hwl⟩

/-- A query that has been read is rendered as what is read as its statements, and keeps within
    the limits on clauses and on values. -/
theorem rereadAs_of_parse {settings : Settings} {text : Text} {q : Query}
    (h : parse settings text = .ok q) :
    List.Forall₂ Statement.RereadAs q.statements q.statements ∧
      (∀ s ∈ q.statements, s.Within settings.maxValues) ∧
      q.statements.length ≤ settings.maxClauses := by
  refine ⟨rereadAs_statements (List.forall₂_same.2 fun c hc => ?_), ?_⟩
  · refine Statement.rereadAs_criterion rfl rfl (List.forall₂_same.2 fun l hl => ?_)
    obtain ⟨ts, t, hts, ht, hw⟩ := exists_written_of_parse h hc hl
    exact Literal.rereadAs_of_written hts ht hw
  · obtain ⟨ts, ss, -, -, hvalues, hclauses, rfl⟩ := exists_statements_of_parse h
    exact ⟨within_statements hvalues, (length_statements_ofStatements_le ss).trans hclauses⟩

/-- A query that has been read is read again from its text, down to every literal, whatever the
    limit on the length is, as long as the text keeps within it. -/
theorem parse_render_of_parse {settings : Settings} {text : Text} {q : Query}
    (h : parse settings text = .ok q) {maxLength : Nat} (hlength : q.render.byteSize ≤ maxLength) :
    parse { settings with maxLength } q.render = .ok q := by
  obtain ⟨hreread, hvalues, hclauses⟩ := rereadAs_of_parse h
  exact parse_render hreread hlength hvalues hclauses

/-- Texts beside the values, a string in quotes and a directive. -/
theorem parse_render_of_parse_beside :
    ∃ q, parse .standard "sort(-Name);code=in=007,TRUE,1e3,'a b'".toList = .ok q ∧
      q.render.byteSize ≤ 40 ∧
      parse { Settings.standard with maxLength := 40 } q.render = .ok q := by
  have hsize : (parse .standard "sort(-Name);code=in=007,TRUE,1e3,'a b'".toList).map
      (·.render.byteSize) = .ok 38 := by decide +kernel
  cases h : parse .standard "sort(-Name);code=in=007,TRUE,1e3,'a b'".toList with
  | error e => rw [h] at hsize; cases hsize
  | ok q =>
    rw [h] at hsize
    have hlength : q.render.byteSize ≤ 40 := (Except.ok.inj hsize).trans_le (by decide)
    exact ⟨q, rfl, hlength, parse_render_of_parse h hlength⟩

end Query

end ResourceQuery
