/-
  Resource queries — what a rendered query is read as.

  * `Query.statements`: the statements that a query is rendered as, one for each clause.
  * `Literal.RereadAs`, `Statement.RereadAs`: what is rendered for the first is written for the
    second.
  * `rereadAs_criterion`, `rereadAs_columns`, `rereadAs_sort`, `rereadAs_page`: columns, sort
    keys and pages are read as themselves, and a criterion as one with the literals that its
    own are read as.  `rereadAs_statements` puts them together for a query.
  * `parse_render`: the text of a query is read as the query whose statements those of the
    first are read as, when the limits allow it.
-/
import ResourceQuery.Proofs.Query.Grammar
import ResourceQuery.Proofs.Target
import ResourceQuery.Proofs.Text.Numeral
import ResourceQuery.Query.Printer

namespace ResourceQuery

open Outcome Token

/-! ## Literals and targets -/

/-- Whether what is rendered for the first literal is a token of the second. -/
def Literal.RereadAs (l l' : Literal) : Prop := ∃ t, Literal.Written t l' ∧ Spells l.render [t]

theorem Target.exists_written (t : Target) : ∃ u, Target.Written u t ∧ Spells t.text [u] :=
  ⟨.bare t.text, .bare t.read_text, spells_word t.isWord_text⟩

theorem SortKey.exists_written (k : SortKey) : ∃ u, SortKey.Written u k ∧ Spells k.render [u] := by
  have hword (c : Char) (hc : Lexeme.isWordChar c) : Lexeme.IsWord (c :: k.target.text) :=
    ⟨List.cons_ne_nil _ _, List.forall_mem_cons.2 ⟨hc, k.target.isWord_text.2⟩⟩
  obtain ⟨target, direction⟩ := k
  cases direction with
  | ascending =>
    exact ⟨.bare ('+' :: target.text), .plus target.read_text, spells_word (hword '+' rfl)⟩
  | descending =>
    exact ⟨.bare ('-' :: target.text), .minus target.read_text, spells_word (hword '-' rfl)⟩

theorem Numeral.isWord_digits (n : Nat) : Lexeme.IsWord (digits n) :=
  ⟨digits_ne_nil n, fun _ hc => Lexeme.isWordChar_of_isDigit (isDigit_of_mem_digits hc)⟩

theorem Page.exists_countWritten (n : UInt64) :
    ∃ u, Page.CountWritten u n ∧ Spells (Numeral.digits n.toNat) [u] :=
  ⟨.bare (Numeral.digits n.toNat), .bare (Numeral.readUInt64?_digits n),
    spells_word (Numeral.isWord_digits n.toNat)⟩

/-! ## Statements -/

namespace Statement

/-- The clause that a statement is rendered as. -/
def render : Statement → Text
  | criterion c => c.render
  | columns targets => Query.renderDirective "select" (targets.map Target.text)
  | sort keys => Query.renderDirective "sort" (keys.map SortKey.render)
  | page p => Query.renderPage p

/-- Whether what is rendered for the first statement is written for the second. -/
def RereadAs (s s' : Statement) : Prop := ∃ us, Written us s' ∧ Spells s.render us

theorem rereadAs_criterion {c c' : Criterion} (htarget : c'.target = c.target)
    (hop : c'.operator = c.operator) (hl : List.Forall₂ Literal.RereadAs c.literals c'.literals) :
    RereadAs (.criterion c) (.criterion c') := by
  have hread : Target.read c.target.text = .ok c'.target := by rw [htarget]; exact c.target.read_text
  by_cases ha : c'.operator.arity = .zero
  · refine ⟨_, .unary hread ha, ?_⟩
    intro rest ts _ h
    have hnil : c.literals = [] := Query.literals_eq_nil (hop ▸ ha)
    rw [render, Criterion.render, hnil, hop]
    simpa [Text.joinWith] using reads_criterion c.target.isWord_text c.operator h
  · have hne : c.literals ≠ [] := by
      intro hnil
      rw [hnil, List.forall₂_nil_left_iff] at hl
      have := c'.accepted
      rw [hl] at this
      cases h : c'.operator.arity <;> simp_all [Arity.accepts]
    obtain ⟨us, hs, hspells⟩ := exists_separated hl hne
    refine ⟨_, .compared hread ha hs, ?_⟩
    intro rest ts hstop h
    rw [hop]
    have := reads_criterion c.target.isWord_text c.operator (hspells rest ts hstop h)
    rwa [← List.append_assoc] at this

/-- A directive is written for its name, the tokens of its arguments and its parenthesis. -/
theorem spells_directive {name : String} (hname : name ∈ ["select", "sort", "limit"])
    {arguments : List Text} {us : List Token} (h : Spells (Text.joinWith [','] arguments) us) :
    Spells (Query.renderDirective name arguments) (.directive name.toList :: us ++ [.close]) := by
  intro rest ts hstop hrest
  have hclose := h.close rest ts hstop hrest
  have hshape : Query.renderDirective name arguments ++ rest =
      name.toList ++ '(' :: (Text.joinWith [','] arguments ++ [')'] ++ rest) := by
    simp [Query.renderDirective]
  rw [hshape]
  simp only [List.mem_cons, List.not_mem_nil, or_false] at hname
  rcases hname with rfl | rfl | rfl <;>
    exact reads_directive (by decide) (by decide) (by decide) hclose

theorem rereadAs_columns {targets : List Target} (hne : targets ≠ []) :
    RereadAs (.columns targets) (.columns targets) := by
  obtain ⟨us, hs, hspells⟩ := exists_separated (f := Target.text)
    (List.forall₂_same.2 fun t (_ : t ∈ targets) => t.exists_written) hne
  exact ⟨_, .columns hs, spells_directive (by simp) hspells⟩

theorem rereadAs_sort {keys : List SortKey} (hne : keys ≠ []) :
    RereadAs (.sort keys) (.sort keys) := by
  obtain ⟨us, hs, hspells⟩ := exists_separated (f := SortKey.render)
    (List.forall₂_same.2 fun k (_ : k ∈ keys) => k.exists_written) hne
  exact ⟨_, .sort hs, spells_directive (by simp) hspells⟩

theorem rereadAs_page (p : Page) : RereadAs (.page p) (.page p) := by
  have hcounts (ns : List UInt64) (hne : ns ≠ []) := exists_separated
    (f := fun n : UInt64 => Numeral.digits n.toNat)
    (List.forall₂_same.2 fun n (_ : n ∈ ns) => Page.exists_countWritten n) hne
  obtain ⟨limit, offset⟩ := p
  rw [RereadAs, render, Query.renderPage]
  split
  · rename_i h
    obtain rfl : offset = 0 := h
    obtain ⟨us, hs, hspells⟩ := hcounts [limit] (List.cons_ne_nil _ _)
    exact ⟨_, .limit hs, spells_directive (by simp) hspells⟩
  · obtain ⟨us, hs, hspells⟩ := hcounts [limit, offset] (List.cons_ne_nil _ _)
    exact ⟨_, .limitOffset hs, spells_directive (by simp) hspells⟩

/-! ## Tokens of statements -/

theorem separator_not_mem {α : Type} {Denotes : Token → α → Prop} {ts : List Token} {as : List α}
    (h : Separated Denotes ts as) (hd : ∀ a, ¬ Denotes .separator a) : .separator ∉ ts := by
  induction h with
  | one h => rintro (_ | ⟨_, ⟨⟩⟩); exact hd _ h
  | more h _ ih =>
    rintro (_ | ⟨_, _ | ⟨_, hm⟩⟩)
    · exact hd _ h
    · exact ih hm

/-- No separator stands within a clause. -/
theorem Written.separator_not_mem {ts : List Token} {s : Statement} (h : Written ts s) :
    .separator ∉ ts := by
  cases h with
  | unary => simp
  | compared _ _ hs => simpa using Statement.separator_not_mem hs fun _ h => (nomatch h)
  | columns hs => simpa using Statement.separator_not_mem hs fun _ h => (nomatch h)
  | sort hs => simpa using Statement.separator_not_mem hs fun _ h => (nomatch h)
  | limit hs => simpa using Statement.separator_not_mem hs fun _ h => (nomatch h)
  | limitOffset hs => simpa using Statement.separator_not_mem hs fun _ h => (nomatch h)

theorem Written.ne_nil {ts : List Token} {s : Statement} (h : Written ts s) : ts ≠ [] := by
  rcases h.head with ⟨_, _, rfl⟩ | ⟨_, _, rfl⟩ <;> exact List.cons_ne_nil _ _

/-- Some character of a clause is no blank. -/
theorem exists_not_isBlank_render (s : Statement) : ∃ c ∈ s.render, ¬ Text.isBlank c := by
  have hdirective (name : String) (arguments : List Text) :
      '(' ∈ Query.renderDirective name arguments := by simp [Query.renderDirective]
  cases s with
  | criterion c =>
    have hop : '=' ∈ c.operator.symbol.toList := by cases c.operator <;> decide
    exact ⟨'=', by simp [render, Criterion.render, hop], by decide⟩
  | columns targets => exact ⟨'(', hdirective _ _, by decide⟩
  | sort keys => exact ⟨'(', hdirective _ _, by decide⟩
  | page p =>
    refine ⟨'(', ?_, by decide⟩
    rw [render, Query.renderPage]
    split <;> exact hdirective _ _

end Statement

namespace Token

/-- Pieces that are not empty and hold no separator are found again between separators. -/
theorem pieces_intercalate {uss : List (List Token)}
    (h : ∀ us ∈ uss, us ≠ [] ∧ .separator ∉ us) :
    pieces ([Token.separator].intercalate uss) = uss := by
  by_cases hne : uss = []
  · subst hne; rfl
  · rw [pieces, List.splitOn_intercalate _ (fun us hus => (h us hus).2) hne,
      List.filter_eq_self]
    intro us hus
    simpa using (h us hus).1

end Token

/-! ## Queries -/

namespace Query

/-- The statements that a query is rendered as. -/
def statements (q : Query) : List Statement :=
  (if q.hasProjection then [.columns q.projection] else []) ++
    q.criteria.map .criterion ++
    (if q.hasSort then [.sort q.sort] else []) ++
    q.page.toList.map .page

theorem renderClauses_eq (q : Query) : q.renderClauses = q.statements.map Statement.render := by
  simp only [renderClauses, statements, List.map_append, List.map_map]
  congr 2
  · congr 1
    split <;> rfl
  · split <;> rfl

theorem projection_eq_nil {q : Query} : q.hasProjection = false ↔ q.projection = [] := by
  simp [hasProjection]

theorem sort_eq_nil {q : Query} : q.hasSort = false ↔ q.sort = [] := by simp [hasSort]

theorem filterMap_statements {α : Type} (f : Statement → Option α) (q : Query) :
    q.statements.filterMap f =
      (if q.hasProjection then (f (.columns q.projection)).toList else []) ++
        q.criteria.filterMap (fun c => f (.criterion c)) ++
        (if q.hasSort then (f (.sort q.sort)).toList else []) ++
        q.page.toList.filterMap fun p => f (.page p) := by
  have hone (s : Statement) : [s].filterMap f = (f s).toList := by
    cases h : f s <;> simp [h]
  have hif (b : Bool) (s : Statement) :
      (if b then [s] else []).filterMap f = if b then (f s).toList else [] := by
    cases b
    · rfl
    · exact hone s
  simp only [statements, List.filterMap_append, List.filterMap_map, hif]
  rfl

theorem columns_statements (q : Query) :
    q.statements.filterMap Statement.columns? = if q.hasProjection then [q.projection] else [] := by
  simp [filterMap_statements, Statement.columns?]

theorem keys_statements (q : Query) :
    q.statements.filterMap Statement.keys? = if q.hasSort then [q.sort] else [] := by
  simp [filterMap_statements, Statement.keys?]

theorem page_statements (q : Query) :
    q.statements.filterMap Statement.page? = q.page.toList := by
  simp [filterMap_statements, Statement.page?]

theorem criteria_statements (q : Query) :
    q.statements.filterMap Statement.criterion? = q.criteria := by
  simp [filterMap_statements, Statement.criterion?]

theorem unrepeated_statements (q : Query) : Statement.Unrepeated q.statements := by
  rw [Statement.Unrepeated, columns_statements, keys_statements, page_statements]
  refine ⟨?_, ?_, ?_⟩
  · split <;> simp
  · split <;> simp
  · cases q.page <;> simp

/-- A query is that of the statements that it is rendered as. -/
theorem ofStatements_statements (q : Query) : ofStatements q.statements = q := by
  rw [ofStatements, columns_statements, keys_statements, page_statements, criteria_statements]
  obtain ⟨projection, criteria, sort, page⟩ := q
  congr 1
  · split
    · rfl
    · rename_i h
      exact (projection_eq_nil.1 (Bool.eq_false_iff.2 h)).symm
  · split
    · rfl
    · rename_i h
      exact (sort_eq_nil.1 (Bool.eq_false_iff.2 h)).symm
  · cases page <;> rfl

/-- Statements are read as themselves but for the criteria, which are read one by one. -/
theorem rereadAs_statements {q : Query} {criteria : List Criterion}
    (h : List.Forall₂ (fun c c' => Statement.RereadAs (.criterion c) (.criterion c')) q.criteria
      criteria) :
    List.Forall₂ Statement.RereadAs q.statements { q with criteria }.statements := by
  have hcolumns : List.Forall₂ Statement.RereadAs
      (if q.hasProjection then [.columns q.projection] else [])
      (if q.hasProjection then [.columns q.projection] else []) := by
    split
    · rename_i hp
      have hne : q.projection ≠ [] := by simpa [hasProjection] using hp
      exact .cons (Statement.rereadAs_columns hne) .nil
    · exact .nil
  have hsort : List.Forall₂ Statement.RereadAs
      (if q.hasSort then [.sort q.sort] else []) (if q.hasSort then [.sort q.sort] else []) := by
    split
    · rename_i hs
      have hne : q.sort ≠ [] := by simpa [hasSort] using hs
      exact .cons (Statement.rereadAs_sort hne) .nil
    · exact .nil
  have hcriteria : List.Forall₂ Statement.RereadAs (q.criteria.map .criterion)
      (criteria.map .criterion) := by
    rw [List.forall₂_map_left_iff, List.forall₂_map_right_iff]
    exact h
  have hpage : List.Forall₂ Statement.RereadAs (q.page.toList.map .page)
      (q.page.toList.map .page) := by
    refine List.forall₂_same.2 ?_
    intro s hs
    obtain ⟨p, -, rfl⟩ := List.mem_map.1 hs
    exact Statement.rereadAs_page p
  exact List.rel_append (List.rel_append (List.rel_append hcolumns hcriteria) hsort) hpage

/-- Texts that the statements of a query are rendered as. -/
theorem exists_tokens {ss ss' : List Statement} (h : List.Forall₂ Statement.RereadAs ss ss') :
    ∃ uss, List.Forall₂ Spells (ss.map Statement.render) uss ∧
      List.Forall₂ Statement.Written uss ss' := by
  induction h with
  | nil => exact ⟨[], .nil, .nil⟩
  | cons h _ ih =>
    obtain ⟨us, hw, hs⟩ := h
    obtain ⟨uss, hss, hws⟩ := ih
    exact ⟨us :: uss, .cons hs hss, .cons hw hws⟩

theorem mem_joinWith_of_mem {sep p : Text} {ps : List Text} (h : p ∈ ps) {c : Char} (hc : c ∈ p) :
    c ∈ Text.joinWith sep ps := by
  induction ps with
  | nil => cases h
  | cons q ps ih =>
    cases ps with
    | nil => exact List.mem_singleton.1 h ▸ hc
    | cons q' ps =>
      simp only [Text.joinWith, List.mem_append]
      rcases List.mem_cons.1 h with rfl | h
      · exact .inl (.inl hc)
      · exact .inr (ih h)

/-- The text of a query that asks for something is no blank. -/
theorem trim_render_ne_nil {q : Query} (h : q.statements ≠ []) : Text.trim q.render ≠ [] := by
  obtain ⟨s, hs⟩ := List.exists_mem_of_ne_nil _ h
  obtain ⟨c, hc, hblank⟩ := s.exists_not_isBlank_render
  intro hnil
  refine hblank (Text.trim_eq_nil.1 hnil c ?_)
  rw [render, renderClauses_eq]
  exact mem_joinWith_of_mem (List.mem_map_of_mem hs) hc

/-- The text of a query is read as the query whose statements its own are read as. -/
theorem parse_render {settings : Settings} {q q' : Query}
    (h : List.Forall₂ Statement.RereadAs q.statements q'.statements)
    (hlength : q.render.byteSize ≤ settings.maxLength)
    (hvalues : ∀ s ∈ q'.statements, s.Within settings.maxValues)
    (hclauses : q'.statements.length ≤ settings.maxClauses) :
    parse settings q.render = .ok q' := by
  rw [parse_eq_ok_iff]
  refine ⟨hlength, ?_⟩
  by_cases hnil : q.statements = []
  · have hnil' : q'.statements = [] := List.forall₂_nil_left_iff.1 (hnil ▸ h)
    have hrender : q.render = [] := by rw [render, renderClauses_eq, hnil]; rfl
    rw [hrender, ← ofStatements_statements q', hnil']
    rfl
  · rw [if_neg (by simpa using trim_render_ne_nil hnil)]
    obtain ⟨uss, hspells, hwritten⟩ := exists_tokens h
    have hpieces : pieces ([Token.separator].intercalate uss) = uss := by
      refine pieces_intercalate ?_
      intro us hus
      obtain ⟨s, -, hw⟩ := forall₂_mem_right hwritten.flip us hus
      exact ⟨hw.ne_nil, hw.separator_not_mem⟩
    refine ⟨_, q'.statements, ?_, hpieces.symm ▸ hwritten, hvalues, hclauses,
      unrepeated_statements q', (ofStatements_statements q').symm⟩
    rw [render, renderClauses_eq]
    exact (spells_joined hspells).tokens?

end Query

end ResourceQuery
