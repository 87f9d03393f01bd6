/-
  Resource queries — joining queries.

  * `Statement.directives`: the directives that statements name; none is repeated exactly when
    these names are distinct (`unrepeated_iff_nodup`).
  * `Query.join`: the criteria of two queries in a row, and the columns, the sort keys and the
    page of the first that has them.
  * `readClauses_repeated`: the first clause that names a directive once more is refused, with
    its number.
  * `parse_join`: two texts with a separator between them are read as their queries joined,
    unless both name the same directive.
-/
import Mathlib.Data.List.Induction
import Mathlib.Data.List.Nodup
import ResourceQuery.Proofs.Query.RoundTrip
import ResourceQuery.Proofs.Token.Joining

namespace ResourceQuery

open Outcome Token

namespace Token

/-- The pieces of two texts with a separator between them. -/
theorem pieces_append (ts us : List Token) :
    pieces (ts ++ .separator :: us) = pieces ts ++ pieces us := by
  rw [pieces, List.splitOn, List.splitOnP_append_cons ts us (by rfl), List.filter_append]
  rfl

end Token

/-! ## Directives -/

namespace Statement

variable {done : List Statement}

/-- The directive that a statement is written with. -/
def directive? : Statement → Option Text
  | criterion _ => none
  | columns _ => some "select".toList
  | sort _ => some "sort".toList
  | page _ => some "limit".toList

/-- The directives that statements are written with. -/
def directives (statements : List Statement) : List Text := statements.filterMap directive?

theorem directives_append (as bs : List Statement) :
    directives (as ++ bs) = directives as ++ directives bs := List.filterMap_append

theorem mem_directives_append {as bs : List Statement} {name : Text} :
    name ∈ directives (as ++ bs) ↔ name ∈ directives as ∨ name ∈ directives bs := by
  rw [directives_append, List.mem_append]

theorem mem_directives_cons {s : Statement} {ss : List Statement} {name : Text} :
    name ∈ directives (s :: ss) ↔ name ∈ directives [s] ∨ name ∈ directives ss := by
  rw [← List.singleton_append, mem_directives_append]

theorem directive?_eq_some {s : Statement} {name : Text} :
    s.directive? = some name ↔ name = "select".toList ∧ s.columns?.isSome ∨
      name = "sort".toList ∧ s.keys?.isSome ∨ name = "limit".toList ∧ s.page?.isSome := by
  cases s <;> simp [directive?, columns?, keys?, page?, eq_comm]

theorem filterMap_ne_nil {α : Type} {f : Statement → Option α} {ss : List Statement} :
    ss.filterMap f ≠ [] ↔ ∃ s ∈ ss, (f s).isSome := by
  simp [List.filterMap_eq_nil_iff, Option.isSome_iff_ne_none]

theorem mem_directives {ss : List Statement} {name : Text} :
    name ∈ directives ss ↔ name = "select".toList ∧ ss.filterMap columns? ≠ [] ∨
      name = "sort".toList ∧ ss.filterMap keys? ≠ [] ∨
      name = "limit".toList ∧ ss.filterMap page? ≠ [] := by
  rw [directives, List.mem_filterMap]
  simp only [directive?_eq_some, filterMap_ne_nil]
  constructor
  · rintro ⟨s, hs, ⟨hname, h⟩ | ⟨hname, h⟩ | ⟨hname, h⟩⟩
    · exact .inl ⟨hname, s, hs, h⟩
    · exact .inr (.inl ⟨hname, s, hs, h⟩)
    · exact .inr (.inr ⟨hname, s, hs, h⟩)
  · rintro (⟨hname, s, hs, h⟩ | ⟨hname, s, hs, h⟩ | ⟨hname, s, hs, h⟩)
    · exact ⟨s, hs, .inl ⟨hname, h⟩⟩
    · exact ⟨s, hs, .inr (.inl ⟨hname, h⟩)⟩
    · exact ⟨s, hs, .inr (.inr ⟨hname, h⟩)⟩

/-- One more statement repeats nothing when its directive is not among those before. -/
theorem unrepeated_concat (hu : Unrepeated done) {s : Statement} :
    Unrepeated (done ++ [s]) ↔ ∀ name, s.directive? = some name → name ∉ directives done := by
  cases s with
  | criterion c => simp [unrepeated_criterion, hu, directive?]
  | columns targets => simp [unrepeated_columns hu, directive?, mem_directives]
  | sort keys => simp [unrepeated_sort hu, directive?, mem_directives]
  | page p => simp [unrepeated_page hu, directive?, mem_directives]

/-- No directive is repeated exactly when the names of all are distinct. -/
theorem unrepeated_iff_nodup {ss : List Statement} : Unrepeated ss ↔ (directives ss).Nodup := by
  induction ss using List.reverseRec with
  | nil => simp [Unrepeated, directives]
  | append_singleton done s ih =>
    have hone : (directives (done ++ [s])).Nodup ↔ (directives done).Nodup ∧
        ∀ name, s.directive? = some name → name ∉ directives done := by
      rw [directives_append]
      cases h : s.directive? with
      | none => simp [directives, h]
      | some name =>
        have hlast : directives [s] = [name] := by simp [directives, h]
        rw [hlast, List.nodup_append_comm, List.singleton_append, List.nodup_cons, and_comm]
        simp
    rw [hone, ← ih]
    constructor
    · intro h
      exact ⟨h.of_append, (unrepeated_concat h.of_append).1 h⟩
    · rintro ⟨hu, h⟩
      exact (unrepeated_concat hu).2 h

/-- Statements in a row repeat nothing when neither part does and no directive is in both. -/
theorem unrepeated_append {as bs : List Statement} :
    Unrepeated (as ++ bs) ↔
      Unrepeated as ∧ Unrepeated bs ∧ ∀ name ∈ directives as, name ∉ directives bs := by
  rw [unrepeated_iff_nodup, unrepeated_iff_nodup, unrepeated_iff_nodup, directives_append,
    List.nodup_append']
  rfl

/-- Statements that are written as something are proper. -/
theorem proper_of_written {α : Type} {tokens : α → List Token} {as : List α}
    {ss : List Statement} (h : List.Forall₂ (fun a s => Written (tokens a) s) as ss) :
    ∀ s ∈ ss, s.Proper := by
  intro s hs
  obtain ⟨a, -, hw⟩ := forall₂_mem_right h s hs
  exact hw.proper

/-- The tokens of a statement begin with its directive. -/
theorem Written.exists_directive {ts : List Token} {s : Statement} (h : Written ts s) {name : Text}
    (hs : s.directive? = some name) : ∃ us, ts = .directive name :: us := by
  cases h with
  | unary => cases hs
  | compared => cases hs
  | _ => exact ⟨_, by rw [← Option.some.inj hs]; rfl⟩

end Statement

namespace Query

/-- Whether a query has what a directive asks for. -/
def HasDirective (q : Query) (name : Text) : Prop :=
  name = "select".toList ∧ q.hasProjection ∨ name = "sort".toList ∧ q.hasSort ∨
    name = "limit".toList ∧ q.page.isSome

theorem hasDirective_ofStatements {ss : List Statement} (hp : ∀ s ∈ ss, s.Proper) {name : Text} :
    (ofStatements ss).HasDirective name ↔ name ∈ Statement.directives ss := by
  rw [Statement.mem_directives, HasDirective, Ne, ← hasProjection_ofStatements hp, Ne,
    ← hasSort_ofStatements hp, Ne, ← page_ofStatements]
  simp only [Bool.not_eq_false]

/-! ## Joined queries -/

/-- The criteria of two queries in a row, and the columns, the sort keys and the page of the
    first that has them. -/
def join (a b : Query) : Query where
  projection := if a.hasProjection then a.projection else b.projection
  criteria := a.criteria ++ b.criteria
  sort := if a.hasSort then a.sort else b.sort
  page := a.page.or b.page

section
variable {α : Type} {present : Bool}

/-- The first of what is listed in a row, where `present` tells whether there is any in front. -/
theorem head?_append_getD {as bs : List (List α)} (h : present = false ↔ as = []) :
    (as ++ bs).head?.getD [] = if present then as.head?.getD [] else bs.head?.getD [] := by
  cases as with
  | nil => rw [h.2 rfl]; rfl
  | cons a as =>
    cases present with
    | false => cases h.1 rfl
    | true => rfl

/-- One or none is listed, as `present` tells. -/
theorem length_ite {β : Type} {a : α} {bs : List β} (h : present = false ↔ bs = [])
    (hbs : bs.length ≤ 1) : (if present then [a] else []).length = bs.length := by
  cases present with
  | false => rw [h.1 rfl]; rfl
  | true =>
    have hne : bs ≠ [] := fun hnil => nomatch h.2 hnil
    exact (Nat.le_antisymm hbs (List.length_pos_of_ne_nil hne)).symm

end

/-- The query of statements in a row joins those of the two parts. -/
theorem ofStatements_append {as bs : List Statement} (hp : ∀ s ∈ as, s.Proper) :
    ofStatements (as ++ bs) = (ofStatements as).join (ofStatements bs) := by
  rw [join, ofStatements, List.filterMap_append, List.filterMap_append, List.filterMap_append,
    List.filterMap_append, head?_append_getD (hasProjection_ofStatements hp),
    head?_append_getD (hasSort_ofStatements hp), List.head?_append]
  rfl

/-- A query has as many statements as it has been made from. -/
theorem length_statements_ofStatements {ss : List Statement} (hp : ∀ s ∈ ss, s.Proper)
    (hu : Statement.Unrepeated ss) : (ofStatements ss).statements.length = ss.length := by
  have hcount (ss : List Statement) : ss.length = (ss.filterMap Statement.columns?).length +
      (ss.filterMap Statement.criterion?).length + (ss.filterMap Statement.keys?).length +
      (ss.filterMap Statement.page?).length := by
    simpa [Function.comp_def] using Statement.sum_map_eq (fun _ => 1) ss
  obtain ⟨hcolumns, hkeys, hpage⟩ := hu
  have hone : (ofStatements ss).page.toList.length = (ss.filterMap Statement.page?).length := by
    show (ss.filterMap Statement.page?).head?.toList.length = _
    match ss.filterMap Statement.page?, hpage with
    | [], _ => rfl
    | [p], _ => rfl
  rw [hcount (ofStatements ss).statements, hcount ss, columns_statements, criteria_statements,
    keys_statements, page_statements, length_ite (hasProjection_ofStatements hp) hcolumns,
    length_ite (hasSort_ofStatements hp) hkeys, hone]
  rfl

/-! ## Repeated directives -/

theorem readDirective_repeated {q : Query} {name : Text} (h : q.HasDirective name) (start : Nat)
    (c : Clause) (ts : List Located) :
    readDirective q name start c ts = .error (.located (.duplicateDirective name) start) := by
  rcases h with ⟨rfl, h⟩ | ⟨rfl, h⟩ | ⟨rfl, h⟩
  · rw [readDirective, if_pos rfl, h]
    rfl
  · rw [readDirective, if_neg (by decide), if_pos rfl, h]
    rfl
  · rw [readDirective, if_neg (by decide), if_neg (by decide), if_pos rfl, h]
    rfl

section
variable {done : List Statement}

/-- A clause that names a directive once more is refused. -/
theorem readClause_repeated (hp : ∀ s ∈ done, s.Proper) {maxValues : Nat} {c : Clause}
    {s : Statement} (hw : Statement.Written (ofLocated c.tokens) s) {name : Text}
    (hs : s.directive? = some name) (hdone : name ∈ Statement.directives done) :
    ∃ start, readClause maxValues (ofStatements done) c =
      .error (.located (.duplicateDirective name) start) := by
  obtain ⟨us, hus⟩ := hw.exists_directive hs
  obtain ⟨start, stop, rest, htokens, -⟩ := ofLocated_eq_cons.1 hus
  have hfront : readFront maxValues (ofStatements done) c c.tokens =
      .error (.located (.duplicateDirective name) start) := by
    rw [htokens]
    exact readDirective_repeated ((hasDirective_ofStatements hp).2 hdone) start c rest
  refine ⟨start, ?_⟩
  rw [readClause, hfront]
  rfl

/-- Clauses in a row are read one part after the other. -/
theorem readClauses_append {settings : Settings} {text : Text} {cs : List Clause} {index : Nat}
    {q q' : Query} (h : readClauses settings text index q cs = .ok q') (ds : List Clause) :
    readClauses settings text index q (cs ++ ds) =
      readClauses settings text (index + cs.length) q' ds := by
  induction cs generalizing index q with
  | nil =>
    obtain rfl := Except.ok.inj h
    rfl
  | cons c cs ih =>
    rw [readClauses] at h
    rw [List.cons_append, readClauses]
    split at h
    · cases h
    rename_i hmax
    rw [if_neg hmax]
    split at h
    · cases h
    rw [ih h, List.length_cons, Nat.add_assoc, Nat.add_comm 1]

/-- The first clause that names a directive once more is refused, with its number. -/
theorem readClauses_repeated {settings : Settings} {text : Text} {cs : List Clause}
    {ss : List Statement} (hf : ∀ c ∈ cs, FieldsOperated (ofLocated c.tokens))
    (hws : List.Forall₂ (fun c s => Statement.Written (ofLocated c.tokens) s) cs ss)
    (hns : ∀ s ∈ ss, s.Within settings.maxValues)
    (hp : ∀ s ∈ done, s.Proper) (hdone : Statement.Unrepeated done) (hss : Statement.Unrepeated ss)
    (hlen : (done ++ ss).length ≤ settings.maxClauses) {index : Nat} (hi : done.length = index)
    (hrep : ∃ name ∈ Statement.directives done, name ∈ Statement.directives ss) :
    ∃ e name i, readClauses settings text index (ofStatements done) cs = .error e ∧
      e.cause = .duplicateDirective name ∧ e.clause = some i ∧
      index ≤ i ∧ i < index + cs.length ∧
      name ∈ Statement.directives done ∧ name ∈ Statement.directives ss := by
  -- along the clauses, where `done` grows by the statement of each that is read
  induction hws generalizing done index with
  | nil =>
    obtain ⟨name, -, h⟩ := hrep
    cases h
  | @cons c s cs ss hw hws ih =>
    obtain ⟨-, hss, hdistinct⟩ := Statement.unrepeated_append.1 (List.singleton_append ▸ hss)
    have hmax : ¬ settings.maxClauses ≤ index := by
      simp only [List.length_append, List.length_cons] at hlen
      omega
    rw [readClauses, if_neg hmax]
    by_cases hone : Statement.Unrepeated (done ++ [s])
    · -- the directive of this clause is new, so the repeated one comes later
      rw [(readClause_eq_ok hp hdone (hf c List.mem_cons_self)).2
        ⟨s, hw, hns s List.mem_cons_self, hone, rfl⟩]
      obtain ⟨name, hname, hmem⟩ := hrep
      have hlater : name ∈ Statement.directives ss :=
        (Statement.mem_directives_cons.1 hmem).resolve_left
          ((Statement.unrepeated_append.1 hone).2.2 name hname)
      have hindex : (done ++ [s]).length = index + 1 := by simp [hi]
      obtain ⟨e, name, i, he, hcause, hclause, hle, hlt, hbefore, hafter⟩ :=
        ih (fun c hc => hf c (List.mem_cons_of_mem _ hc))
          (fun s hs => hns s (List.mem_cons_of_mem _ hs)) (Statement.proper_append hp hw.proper)
          hone hss (by simpa using hlen) hindex
          ⟨name, Statement.mem_directives_append.2 (.inl hname), hlater⟩
      refine ⟨e, name, i, he, hcause, hclause, by omega, by rw [List.length_cons]; omega, ?_,
        Statement.mem_directives_cons.2 (.inr hafter)⟩
      -- it is not the directive of this clause that comes again: the statements repeat none
      exact (Statement.mem_directives_append.1 hbefore).resolve_right fun h =>
        hdistinct name h hafter
    · rw [Statement.unrepeated_concat hdone] at hone
      push Not at hone
      obtain ⟨name, hs, hname⟩ := hone
      obtain ⟨start, hstart⟩ : ∃ start, readClause settings.maxValues (ofStatements done) c =
          .error (.located (.duplicateDirective name) start) :=
        readClause_repeated hp hw hs hname
      rw [hstart]
      exact ⟨_, name, index, rfl, rfl, rfl, le_rfl, by simp, hname,
        List.mem_filterMap.2 ⟨s, List.mem_cons_self, hs⟩⟩

end

/-- Of clauses in two parts, where no directive is repeated within one part but some is in both,
    one of the second part is refused. -/
theorem readClauses_append_repeated {settings : Settings} (text : Text) {cs : List Clause}
    {as bs : List Statement} (hf : ∀ c ∈ cs, FieldsOperated (ofLocated c.tokens))
    (hws : List.Forall₂ (fun c s => Statement.Written (ofLocated c.tokens) s) cs (as ++ bs))
    (hns : ∀ s ∈ as ++ bs, s.Within settings.maxValues) (has : Statement.Unrepeated as)
    (hbs : Statement.Unrepeated bs) (hlen : (as ++ bs).length ≤ settings.maxClauses)
    (hrep : ∃ name ∈ Statement.directives as, name ∈ Statement.directives bs) :
    ∃ e name i, readClauses settings text 0 .empty cs = .error e ∧
      e.cause = .duplicateDirective name ∧ e.clause = some i ∧
      as.length ≤ i ∧ i < as.length + bs.length ∧
      name ∈ Statement.directives as ∧ name ∈ Statement.directives bs := by
  have hwas := List.forall₂_take_append cs as bs hws
  have hwbs := List.forall₂_drop_append cs as bs hws
  have hfirst : readClauses settings text 0 .empty (cs.take as.length) = .ok (ofStatements as) := by
    have hread : readClauses settings text 0 (ofStatements []) (cs.take as.length) =
        .ok (ofStatements as) ↔ _ :=
      readClauses_eq_ok (fun c hc => hf c (List.mem_of_mem_take hc))
        (fun s (hs : s ∈ ([] : List Statement)) => nomatch hs) unrepeated_nil rfl
    refine hread.2 ⟨as, hwas, fun s hs => hns s (List.mem_append_left _ hs), .inr ?_, has, rfl⟩
    rw [List.length_append] at hlen
    exact (Nat.le_add_right _ _).trans hlen
  have hsplit := readClauses_append hfirst (cs.drop as.length)
  rw [List.take_append_drop, Nat.zero_add, hwas.length_eq] at hsplit
  rw [hsplit, ← hwbs.length_eq]
  exact readClauses_repeated (fun c hc => hf c (List.mem_of_mem_drop hc)) hwbs
    (fun s hs => hns s (List.mem_append_right _ hs)) (Statement.proper_of_written hwas) has hbs
    hlen rfl hrep

/-! ## Joined texts -/

/-- The pieces of a text that asks for something are written for statements. -/
theorem exists_pieces_of_parse {settings : Settings} {text : Text} {q : Query}
    (h : parse settings text = .ok q) (hq : q.isEmpty = false) :
    ∃ ts ss, tokens? text = .ok ts ∧ List.Forall₂ Statement.Written (pieces ts) ss ∧
      Statement.Unrepeated ss ∧ q = ofStatements ss := by
  obtain ⟨-, h⟩ := parse_eq_ok_iff.1 h
  split at h
  · rw [h] at hq
    cases hq
  · obtain ⟨ts, ss, hts, hws, -, -, hu, hq⟩ := h
    exact ⟨ts, ss, hts, hws, hu, hq⟩

/-- Statements stay within the limit on values when the criteria of their query do. -/
theorem within_iff_criteria {n : Nat} {ss : List Statement} :
    (∀ s ∈ ss, s.Within n) ↔
      ∀ c ∈ (ofStatements ss).criteria, c.literals.length ≤ max 1 n := by
  constructor
  · intro h c hc
    obtain ⟨s, hs, hcs⟩ := List.mem_filterMap.1 hc
    cases s <;> cases hcs
    exact h _ hs
  · intro h s hs
    cases s with
    | criterion c => exact h c (List.mem_filterMap.2 ⟨_, hs, rfl⟩)
    | _ => trivial

theorem within_of_criteria {n : Nat} {ss : List Statement}
    (h : ∀ c ∈ (ofStatements ss).criteria, c.literals.length ≤ n) : ∀ s ∈ ss, s.Within n :=
  within_iff_criteria.2 fun c hc => (h c hc).trans (le_max_right _ _)

/-- A text with a separator in it is no blank. -/
theorem trim_join_ne_nil {sep : Char} (hsep : Lexeme.IsSeparator sep) (a b : Text) :
    Text.trim (a ++ sep :: b) ≠ [] := by
  rw [Ne, Text.trim_eq_nil]
  intro h
  have hblank := h sep (List.mem_append_right _ List.mem_cons_self)
  rcases hsep with rfl | rfl <;> exact absurd hblank (by decide)

/-- **Texts are joined by a separator.**  Two texts that ask for something, with a separator
    between them, are read as their queries joined, when the limits allow it and no directive is
    in both.  Otherwise a directive that is in both is refused, in a clause of the second text. -/
theorem parse_join {sep : Char} (hsep : Lexeme.IsSeparator sep) {a b : Text} {A B : Query}
    {settingsA settingsB settings : Settings}
    (ha : parse settingsA a = .ok A) (hA : A.isEmpty = false)
    (hb : parse settingsB b = .ok B) (hB : B.isEmpty = false)
    (hlength : Text.byteSize (a ++ sep :: b) ≤ settings.maxLength)
    (hclauses : A.statements.length + B.statements.length ≤ settings.maxClauses)
    (hvalues : ∀ c ∈ A.criteria ++ B.criteria, c.literals.length ≤ settings.maxValues) :
    ((∀ name, ¬ (A.HasDirective name ∧ B.HasDirective name)) →
        parse settings (a ++ sep :: b) = .ok (A.join B)) ∧
      ((∃ name, A.HasDirective name ∧ B.HasDirective name) →
        ∃ e name index, parse settings (a ++ sep :: b) = .error e ∧
          e.cause = .duplicateDirective name ∧ A.HasDirective name ∧ B.HasDirective name ∧
          e.clause = some index ∧ A.statements.length ≤ index ∧
          index < A.statements.length + B.statements.length) := by
  obtain ⟨ts, as, hts, has, huA, rfl⟩ := exists_pieces_of_parse ha hA
  obtain ⟨us, bs, hus, hbs, huB, rfl⟩ := exists_pieces_of_parse hb hB
  have hpA : ∀ s ∈ as, s.Proper := Statement.proper_of_written has
  have hpB : ∀ s ∈ bs, s.Proper := Statement.proper_of_written hbs
  have htokens : tokens? (a ++ sep :: b) = .ok (ts ++ .separator :: us) := by
    rw [tokens?_join hsep hts, hus]
    rfl
  have hwritten : List.Forall₂ Statement.Written (pieces (ts ++ .separator :: us)) (as ++ bs) := by
    rw [pieces_append]
    exact List.rel_append has hbs
  have hwithin : ∀ s ∈ as ++ bs, s.Within settings.maxValues := by
    refine within_of_criteria ?_
    rwa [ofStatements_append hpA]
  rw [length_statements_ofStatements hpA huA, length_statements_ofStatements hpB huB]
    at hclauses ⊢
  simp only [hasDirective_ofStatements hpA, hasDirective_ofStatements hpB]
  constructor
  · intro hdistinct
    rw [parse_eq_ok_iff, if_neg (by simpa using trim_join_ne_nil hsep a b),
      ← ofStatements_append hpA]
    refine ⟨hlength, _, as ++ bs, htokens, hwritten, hwithin, by simpa using hclauses, ?_, rfl⟩
    exact Statement.unrepeated_append.2
      ⟨huA, huB, fun name hname hmem => hdistinct name ⟨hname, hmem⟩⟩
  · rintro ⟨name, hname, hmem⟩
    obtain ⟨located, hlocated, hofLocated⟩ := exists_tokenize_iff.2 htokens
    rw [← hofLocated, ← Clause.ofLocated_ofTokens (Text.byteSize (a ++ sep :: b))] at hwritten
    have hf : ∀ c ∈ Clause.ofTokens (Text.byteSize (a ++ sep :: b)) located,
        FieldsOperated (ofLocated c.tokens) := fun c hc =>
      Clause.fieldsOperated_of_mem (fieldsOperated_tokens (tokens?_of_tokenize hlocated)) hc
    obtain ⟨e, name, index, he, hcause, hclause, hle, hlt, hfirst, hsecond⟩ :=
      readClauses_append_repeated (a ++ sep :: b) hf
        (List.forall₂_map_left_iff.1 hwritten) hwithin huA huB (by simpa using hclauses)
        ⟨name, hname, hmem⟩
    refine ⟨e, name, index, ?_, hcause, hfirst, hsecond, hclause, hle, hlt⟩
    rw [parse, if_neg (by omega), if_neg (by simpa using trim_join_ne_nil hsep a b), hlocated]
    exact he

/-- A text with a separator between quotes and a sort key, joined with another and with itself. -/
theorem parse_join_quoted :
    (∃ A B, parse .standard "name=eq='a;b';sort(age)".toList = .ok A ∧
        parse .standard " ;age=in=1,2;limit(5)".toList = .ok B ∧
        parse .standard ("name=eq='a;b';sort(age)".toList ++
          '&' :: " ;age=in=1,2;limit(5)".toList) = .ok (A.join B)) ∧
      ∃ e name index, parse .standard ("name=eq='a;b';sort(age)".toList ++
          ';' :: "name=eq='a;b';sort(age)".toList) = .error e ∧
        e.cause = .duplicateDirective name ∧ e.clause = some index ∧ 2 ≤ index := by
  have hfirst : (parse .standard "name=eq='a;b';sort(age)".toList).map (fun q =>
      (q.isEmpty, q.hasProjection, q.hasSort, q.page.isSome, q.statements.length,
        q.criteria.all (·.literals.length ≤ 9))) = .ok (false, false, true, false, 2, true) := by
    decide +kernel
  have hsecond : (parse .standard " ;age=in=1,2;limit(5)".toList).map (fun q =>
      (q.isEmpty, q.hasProjection, q.hasSort, q.page.isSome, q.statements.length,
        q.criteria.all (·.literals.length ≤ 9))) = .ok (false, false, false, true, 2, true) := by
    decide +kernel
  obtain ⟨A, ha, hA⟩ := map_eq_ok.1 hfirst
  obtain ⟨B, hb, hB⟩ := map_eq_ok.1 hsecond
  simp only [Prod.mk.injEq, List.all_eq_true, decide_eq_true_eq] at hA hB
  obtain ⟨hA, hAcolumns, hAsort, hApage, hAlength, hAvalues⟩ := hA
  obtain ⟨hB, hBcolumns, hBsort, hBpage, hBlength, hBvalues⟩ := hB
  have hle (c : Criterion) (hc : c.literals.length ≤ 9) :
      c.literals.length ≤ Settings.standard.maxValues := hc.trans (by decide)
  constructor
  · refine ⟨A, B, ha, hb, (parse_join (.inr rfl) ha hA hb hB (by decide)
      (by rw [hAlength, hBlength]; decide) ?_).1 ?_⟩
    · intro c hc
      exact hle c ((List.mem_append.1 hc).elim (hAvalues c) (hBvalues c))
    · rintro name ⟨⟨-, h⟩ | ⟨rfl, -⟩ | ⟨-, h⟩, hname⟩
      · rw [hAcolumns] at h; cases h
      · rcases hname with ⟨hname, -⟩ | ⟨-, h⟩ | ⟨hname, -⟩
        · cases hname
        · rw [hBsort] at h; cases h
        · cases hname
      · rw [hApage] at h; cases h
  · obtain ⟨e, name, index, he, hcause, -, -, hclause, hle, -⟩ :=
      (parse_join (.inl rfl) ha hA ha hA (by decide) (by rw [hAlength]; decide)
        (fun c hc => hle c ((List.mem_append.1 hc).elim (hAvalues c) (hAvalues c)))).2
        ⟨"sort".toList, .inr (.inl ⟨rfl, hAsort⟩), .inr (.inl ⟨rfl, hAsort⟩)⟩
    exact ⟨e, name, index, he, hcause, hclause, hAlength ▸ hle⟩

end Query

end ResourceQuery
