/-
  Resource queries — clauses as statements.

  * `Statement.Proper`, `Statement.Within`: what the statements of clauses have in common, and
    the limit on the values of a criterion.
  * `ofStatements_append`: the query of statements with one more.
  * `readClause_eq_ok`: a clause adds to a query exactly the statements that are written with
    its tokens, unless they repeat a directive.
  * `readClauses_eq_ok`: the same for all clauses of a text.
-/
import ResourceQuery.Proofs.Query.Readers

namespace ResourceQuery

open Outcome Token

namespace Statement

/-- Whether the statement names at least one column or sort key, when it names any. -/
def Proper : Statement → Prop
  | columns targets => targets ≠ []
  | sort keys => keys ≠ []
  | _ => True

/-- Whether the statement stays within the limit on the values of a criterion; one value is
    always allowed. -/
def Within (maxValues : Nat) : Statement → Prop
  | criterion c => c.literals.length ≤ max 1 maxValues
  | _ => True

theorem Written.proper {ts : List Token} {s : Statement} (h : Written ts s) : s.Proper := by
  cases h with
  | columns h => exact h.ne_nil
  | sort h => exact h.ne_nil
  | _ => trivial

/-- A statement begins with a field or with a directive. -/
theorem Written.head {ts : List Token} {s : Statement} (h : Written ts s) :
    (∃ path us, ts = .field path :: us) ∨ ∃ name us, ts = .directive name :: us := by
  cases h with
  | unary => exact .inl ⟨_, _, rfl⟩
  | compared => exact .inl ⟨_, _, rfl⟩
  | _ => exact .inr ⟨_, _, rfl⟩

/-- A statement that is written with a field: a criterion on its target. -/
theorem written_field {path : Text} {ts : List Token} {s : Statement} :
    Written (.field path :: ts) s ↔
      ∃ c, s = .criterion c ∧ Target.read path = .ok c.target ∧
        ∃ us, ts = .operator c.operator :: us ∧
          ((c.operator.arity = .zero ∧ us = []) ∨
            (c.operator.arity ≠ .zero ∧ Separated Literal.Written us c.literals)) := by
  constructor
  · intro h
    generalize hts : Token.field path :: ts = all at h
    cases h with
    | unary ht ha =>
      obtain ⟨⟨⟩, rfl⟩ := List.cons.inj hts
      exact ⟨_, rfl, ht, _, rfl, .inl ⟨ha, rfl⟩⟩
    | compared ht ha hs =>
      obtain ⟨⟨⟩, rfl⟩ := List.cons.inj hts
      exact ⟨_, rfl, ht, _, rfl, .inr ⟨ha, hs⟩⟩
    | _ => cases hts
  · rintro ⟨c, rfl, ht, us, rfl, ⟨ha, rfl⟩ | ⟨ha, hs⟩⟩
    · exact .unary ht ha
    · exact .compared ht ha hs

/-- A statement that is written with a directive: its arguments and what they denote. -/
theorem Written.directive {name : Text} {ts : List Token} {s : Statement}
    (h : Written (.directive name :: ts) s) :
    ∃ us, ts = us ++ [.close] ∧
      ((name = "select".toList ∧ ∃ targets, s = .columns targets ∧
          Separated Target.Written us targets) ∨
        (name = "sort".toList ∧ ∃ keys, s = .sort keys ∧ Separated SortKey.Written us keys) ∨
        (name = "limit".toList ∧ ∃ p ns, s = .page p ∧ Separated Page.CountWritten us ns ∧
          (ns = [p.limit] ∧ p.offset = 0 ∨ ns = [p.limit, p.offset]))) := by
  generalize hts : Token.directive name :: ts = all at h
  cases h with
  | unary => cases hts
  | compared => cases hts
  | columns h =>
    obtain ⟨⟨⟩, rfl⟩ := List.cons.inj hts
    exact ⟨_, rfl, .inl ⟨rfl, _, rfl, h⟩⟩
  | sort h =>
    obtain ⟨⟨⟩, rfl⟩ := List.cons.inj hts
    exact ⟨_, rfl, .inr (.inl ⟨rfl, _, rfl, h⟩)⟩
  | limit h =>
    obtain ⟨⟨⟩, rfl⟩ := List.cons.inj hts
    exact ⟨_, rfl, .inr (.inr ⟨rfl, _, _, rfl, h, .inl ⟨rfl, rfl⟩⟩)⟩
  | limitOffset h =>
    obtain ⟨⟨⟩, rfl⟩ := List.cons.inj hts
    exact ⟨_, rfl, .inr (.inr ⟨rfl, _, _, rfl, h, .inr rfl⟩)⟩

/-! ## One more statement -/

variable {done : List Statement}

theorem unrepeated_criterion {c : Criterion} :
    Unrepeated (done ++ [criterion c]) ↔ Unrepeated done := by
  simp [Unrepeated, List.filterMap_cons, columns?, keys?, page?]

theorem unrepeated_columns {targets : List Target} (h : Unrepeated done) :
    Unrepeated (done ++ [columns targets]) ↔ done.filterMap columns? = [] := by
  simp only [Unrepeated] at h
  simp [Unrepeated, List.filterMap_cons, columns?, keys?, page?, h, ← List.length_eq_zero_iff]

theorem unrepeated_sort {keys : List SortKey} (h : Unrepeated done) :
    Unrepeated (done ++ [sort keys]) ↔ done.filterMap keys? = [] := by
  simp only [Unrepeated] at h
  simp [Unrepeated, List.filterMap_cons, columns?, keys?, page?, h, ← List.length_eq_zero_iff]

theorem unrepeated_page {p : Page} (h : Unrepeated done) :
    Unrepeated (done ++ [page p]) ↔ done.filterMap page? = [] := by
  simp only [Unrepeated] at h
  simp [Unrepeated, List.filterMap_cons, columns?, keys?, page?, h, ← List.length_eq_zero_iff]

theorem proper_append (hp : ∀ s ∈ done, s.Proper) {s : Statement} (hs : s.Proper) :
    ∀ s' ∈ done ++ [s], s'.Proper := by
  intro s' hs'
  rcases List.mem_append.1 hs' with h | h
  · exact hp s' h
  · rw [List.mem_singleton.1 h]
    exact hs

theorem Unrepeated.of_append {more : List Statement} (h : Unrepeated (done ++ more)) :
    Unrepeated done := by
  simp only [Unrepeated, List.filterMap_append, List.length_append] at h ⊢
  omega

end Statement

namespace Query

variable {done : List Statement}

theorem ofStatements_criterion (c : Criterion) :
    ofStatements (done ++ [.criterion c]) = (ofStatements done).addCriterion c := by
  simp [ofStatements, addCriterion, Statement.columns?, Statement.keys?, Statement.page?,
    Statement.criterion?]

theorem ofStatements_columns {targets : List Target}
    (h : done.filterMap Statement.columns? = []) :
    ofStatements (done ++ [.columns targets]) =
      { ofStatements done with projection := targets } := by
  simp [ofStatements, Statement.columns?, Statement.keys?, Statement.page?, Statement.criterion?, h]

theorem ofStatements_sort {keys : List SortKey} (h : done.filterMap Statement.keys? = []) :
    ofStatements (done ++ [.sort keys]) = { ofStatements done with sort := keys } := by
  simp [ofStatements, Statement.columns?, Statement.keys?, Statement.page?, Statement.criterion?, h]

theorem ofStatements_page {p : Page} (h : done.filterMap Statement.page? = []) :
    ofStatements (done ++ [.page p]) = { ofStatements done with page := some p } := by
  simp [ofStatements, Statement.columns?, Statement.keys?, Statement.page?, Statement.criterion?, h]

theorem hasProjection_ofStatements (hp : ∀ s ∈ done, s.Proper) :
    (ofStatements done).hasProjection = false ↔ done.filterMap Statement.columns? = [] := by
  simp only [hasProjection, ofStatements]
  cases h : done.filterMap Statement.columns? with
  | nil => simp
  | cons targets rest =>
    have hm : targets ∈ done.filterMap Statement.columns? := h ▸ List.mem_cons_self
    obtain ⟨s, hs, hc⟩ := List.mem_filterMap.1 hm
    cases s <;> cases hc
    have : targets ≠ [] := hp _ hs
    simpa using this

theorem hasSort_ofStatements (hp : ∀ s ∈ done, s.Proper) :
    (ofStatements done).hasSort = false ↔ done.filterMap Statement.keys? = [] := by
  simp only [hasSort, ofStatements]
  cases h : done.filterMap Statement.keys? with
  | nil => simp
  | cons keys rest =>
    have hm : keys ∈ done.filterMap Statement.keys? := h ▸ List.mem_cons_self
    obtain ⟨s, hs, hc⟩ := List.mem_filterMap.1 hm
    cases s <;> cases hc
    have : keys ≠ [] := hp _ hs
    simpa using this

theorem page_ofStatements :
    (ofStatements done).page.isSome = false ↔ done.filterMap Statement.page? = [] := by
  simp only [ofStatements]
  cases done.filterMap Statement.page? <;> simp

/-! ## One more clause -/

theorem readOnce_eq_ok {name : Text} {start : Nat} {present : Bool} {c : Clause}
    {ts : List Located} {r : List Argument × List Located} :
    readOnce name start present c ts = .ok r ↔
      present = false ∧ readArguments name c true ts = .ok r := by
  cases present <;> simp [readOnce]

/-- What a directive makes of its arguments, where `P` is what it asks of what they are read as
    and of what is left. -/
theorem directive_iff {α : Type} {read : Argument → Except ParseError α}
    {Denotes : Token → α → Prop} (hbare : ∀ t b, Denotes t b → ∃ w, t = .bare w)
    (hread : ∀ a b, read a = .ok b ↔ Denotes (.bare a.1) b) {P : List α → List Located → Prop}
    (hP : ∀ bs rest, P bs rest → rest = []) {name : Text} {start : Nat} {present : Bool}
    {c : Clause} {ts : List Located} (hf : FieldsOperated (ofLocated ts)) :
    (∃ as rest, readOnce name start present c ts = .ok (as, rest) ∧
        ∃ bs, as.mapM read = .ok bs ∧ P bs rest) ↔
      present = false ∧ ∃ us bs, ofLocated ts = us ++ [.close] ∧ Separated Denotes us bs ∧
        P bs [] := by
  simp only [readOnce_eq_ok]
  constructor
  · rintro ⟨as, rest, ⟨hpresent, has⟩, bs, hbs, h⟩
    obtain rfl := hP bs rest h
    obtain ⟨us, hus, hs⟩ := (arguments_written hbare hread hf).1 ⟨as, has, hbs⟩
    exact ⟨hpresent, us, bs, hus, hs, h⟩
  · rintro ⟨hpresent, us, bs, hus, hs, h⟩
    obtain ⟨as, has, hbs⟩ := (arguments_written hbare hread hf).2 ⟨us, hus, hs⟩
    exact ⟨as, [], ⟨hpresent, has⟩, bs, hbs, h⟩

section
variable {start : Nat} {c : Clause} {ts : List Located} {q : Query}

theorem readDirective_select (hp : ∀ s ∈ done, s.Proper) (hu : Statement.Unrepeated done)
    (hf : FieldsOperated (ofLocated ts)) :
    readDirective (ofStatements done) "select".toList start c ts = .ok (q, []) ↔
      ∃ s, Statement.Written (.directive "select".toList :: ofLocated ts) s ∧
        Statement.Unrepeated (done ++ [s]) ∧ q = ofStatements (done ++ [s]) := by
  rw [readDirective, if_pos rfl]
  simp only [bind_eq_ok, pure_eq_ok, Prod.exists]
  rw [directive_iff exists_bare_of_target (fun _ _ => argumentTarget_eq_ok)
    (fun _ _ h => (Prod.mk.inj h).2) hf, hasProjection_ofStatements hp]
  constructor
  · rintro ⟨hnone, us, targets, hus, hs, h⟩
    refine ⟨.columns targets, hus ▸ .columns hs, (Statement.unrepeated_columns hu).2 hnone, ?_⟩
    rw [ofStatements_columns hnone, (Prod.mk.inj h).1]
  · rintro ⟨s, hw, hun, rfl⟩
    obtain ⟨us, hus, h⟩ := hw.directive
    obtain ⟨-, targets, rfl, hs⟩ := h.resolve_right (by simp)
    have hnone := (Statement.unrepeated_columns hu).1 hun
    exact ⟨hnone, us, targets, hus, hs, by rw [ofStatements_columns hnone]⟩

theorem readDirective_sort (hp : ∀ s ∈ done, s.Proper) (hu : Statement.Unrepeated done)
    (hf : FieldsOperated (ofLocated ts)) :
    readDirective (ofStatements done) "sort".toList start c ts = .ok (q, []) ↔
      ∃ s, Statement.Written (.directive "sort".toList :: ofLocated ts) s ∧
        Statement.Unrepeated (done ++ [s]) ∧ q = ofStatements (done ++ [s]) := by
  rw [readDirective, if_neg (by decide), if_pos rfl]
  simp only [bind_eq_ok, pure_eq_ok, Prod.exists]
  rw [directive_iff exists_bare_of_key (fun _ _ => argumentKey_eq_ok)
    (fun _ _ h => (Prod.mk.inj h).2) hf, hasSort_ofStatements hp]
  constructor
  · rintro ⟨hnone, us, keys, hus, hs, h⟩
    refine ⟨.sort keys, hus ▸ .sort hs, (Statement.unrepeated_sort hu).2 hnone, ?_⟩
    rw [ofStatements_sort hnone, (Prod.mk.inj h).1]
  · rintro ⟨s, hw, hun, rfl⟩
    obtain ⟨us, hus, h⟩ := hw.directive
    obtain ⟨-, keys, rfl, hs⟩ := (h.resolve_left (by simp)).resolve_right (by simp)
    have hnone := (Statement.unrepeated_sort hu).1 hun
    exact ⟨hnone, us, keys, hus, hs, by rw [ofStatements_sort hnone]⟩

theorem readDirective_limit (hu : Statement.Unrepeated done)
    (hf : FieldsOperated (ofLocated ts)) :
    readDirective (ofStatements done) "limit".toList start c ts = .ok (q, []) ↔
      ∃ s, Statement.Written (.directive "limit".toList :: ofLocated ts) s ∧
        Statement.Unrepeated (done ++ [s]) ∧ q = ofStatements (done ++ [s]) := by
  rw [readDirective, if_neg (by decide), if_neg (by decide), if_pos rfl]
  simp only [bind_eq_ok, Prod.exists]
  rw [directive_iff exists_bare_of_count (fun _ _ => argumentCount_eq_ok) ?rest hf,
    page_ofStatements]
  case rest =>
    intro ns rest h
    split at h
    · exact (Prod.mk.inj (pure_eq_ok.1 h)).2
    · exact (Prod.mk.inj (pure_eq_ok.1 h)).2
    · cases h
  constructor
  · rintro ⟨hnone, us, ns, hus, hs, h⟩
    have hun {p : Page} := (Statement.unrepeated_page (p := p) hu).2 hnone
    split at h
    · refine ⟨.page ⟨_, _⟩, by rw [hus]; exact .limit hs, hun, ?_⟩
      rw [ofStatements_page hnone, (Prod.mk.inj (pure_eq_ok.1 h)).1]
    · refine ⟨.page ⟨_, _⟩, by rw [hus]; exact .limitOffset hs, hun, ?_⟩
      rw [ofStatements_page hnone, (Prod.mk.inj (pure_eq_ok.1 h)).1]
    · cases h
  · rintro ⟨s, hw, hun, rfl⟩
    obtain ⟨us, hus, h⟩ := hw.directive
    obtain ⟨-, p, ns, rfl, hs, hns⟩ := (h.resolve_left (by simp)).resolve_left (by simp)
    have hnone := (Statement.unrepeated_page hu).1 hun
    refine ⟨hnone, us, ns, hus, hs, ?_⟩
    rw [ofStatements_page hnone]
    rcases hns with ⟨rfl, h0⟩ | rfl
    · rw [← h0]; rfl
    · rfl

/-- A directive adds the statement that is written with it. -/
theorem readDirective_eq_ok (hp : ∀ s ∈ done, s.Proper) (hu : Statement.Unrepeated done)
    {name : Text} (hf : FieldsOperated (ofLocated ts)) :
    readDirective (ofStatements done) name start c ts = .ok (q, []) ↔
      ∃ s, Statement.Written (.directive name :: ofLocated ts) s ∧
        Statement.Unrepeated (done ++ [s]) ∧ q = ofStatements (done ++ [s]) := by
  by_cases hselect : name = "select".toList
  · subst hselect
    exact readDirective_select hp hu hf
  by_cases hsort : name = "sort".toList
  · subst hsort
    exact readDirective_sort hp hu hf
  by_cases hlimit : name = "limit".toList
  · subst hlimit
    exact readDirective_limit hu hf
  rw [readDirective, if_neg hselect, if_neg hsort, if_neg hlimit]
  constructor
  · rintro ⟨⟩
  · rintro ⟨s, hw, -⟩
    obtain ⟨us, -, h | h | h⟩ := hw.directive
    · exact absurd h.1 hselect
    · exact absurd h.1 hsort
    · exact absurd h.1 hlimit

end

/-- A clause adds the statement that is written with its tokens. -/
theorem readFront_eq_ok (hp : ∀ s ∈ done, s.Proper) (hu : Statement.Unrepeated done)
    {maxValues : Nat} {c : Clause} {ts : List Located} {q : Query}
    (hf : FieldsOperated (ofLocated ts)) :
    readFront maxValues (ofStatements done) c ts = .ok (q, []) ↔
      ∃ s, Statement.Written (ofLocated ts) s ∧ s.Within maxValues ∧
        Statement.Unrepeated (done ++ [s]) ∧ q = ofStatements (done ++ [s]) := by
  fun_cases readFront maxValues (ofStatements done) c ts with
  | case1 =>
    constructor
    · rintro ⟨⟩
    · rintro ⟨s, hw, _⟩
      rcases hw.head with ⟨_, _, h⟩ | ⟨_, _, h⟩ <;> cases h
  | case2 t ts path ht =>
    rw [ofLocated_cons, ht]
    simp only [bind_eq_ok, pure_eq_ok, Prod.exists, Prod.mk.injEq, Statement.written_field]
    constructor
    · rintro ⟨target, hread, criterion, _, hc, rfl, rfl⟩
      obtain ⟨htarget⟩ := argumentTarget_eq_ok.1 hread
      obtain ⟨rfl, us, hus, h⟩ := readCriterion_eq_ok.1 hc
      refine ⟨.criterion criterion, ⟨_, rfl, htarget, us, hus, h.imp id fun h => ⟨h.1, h.2.1⟩⟩, ?_,
        Statement.unrepeated_criterion.2 hu, (ofStatements_criterion criterion).symm⟩
      rcases h with ⟨ha, -⟩ | ⟨-, -, hn⟩
      · simp [Statement.Within, literals_eq_nil ha]
      · exact hn
    · rintro ⟨_, ⟨criterion, rfl, htarget, us, hus, h⟩, hn, -, rfl⟩
      refine ⟨criterion.target, argumentTarget_eq_ok.2 (.bare htarget), criterion, [], ?_,
        (ofStatements_criterion criterion).symm, rfl⟩
      exact readCriterion_eq_ok.2 ⟨rfl, us, hus, h.imp id fun h => ⟨h.1, h.2, hn⟩⟩
  | case3 t ts name ht =>
    rw [readDirective_eq_ok hp hu (hf.tail), ofLocated_cons, ht]
    refine exists_congr fun s => and_congr_right fun hw => (and_iff_right ?_).symm
    obtain ⟨us, -, ⟨-, _, rfl, -⟩ | ⟨-, _, rfl, -⟩ | ⟨-, _, _, rfl, -⟩⟩ := hw.directive <;> trivial
  | case4 t ts text ht =>
    constructor
    · rintro ⟨⟩
    · rintro ⟨s, hw, _⟩
      rw [ofLocated_cons, ht] at hw
      rcases hw.head with ⟨_, _, h⟩ | ⟨_, _, h⟩ <;> cases h
  | case5 t ts h₁ h₂ h₃ =>
    constructor
    · rintro ⟨⟩
    · rintro ⟨s, hw, _⟩
      rcases hw.head with ⟨_, _, h⟩ | ⟨_, _, h⟩ <;>
        rw [ofLocated_cons] at h <;> simp_all

theorem readClause_eq_ok (hp : ∀ s ∈ done, s.Proper) (hu : Statement.Unrepeated done)
    {maxValues : Nat} {c : Clause} {q : Query} (hf : FieldsOperated (ofLocated c.tokens)) :
    readClause maxValues (ofStatements done) c = .ok q ↔
      ∃ s, Statement.Written (ofLocated c.tokens) s ∧ s.Within maxValues ∧
        Statement.Unrepeated (done ++ [s]) ∧ q = ofStatements (done ++ [s]) := by
  rw [← readFront_eq_ok hp hu (c := c) hf, readClause, bind_eq_ok]
  constructor
  · rintro ⟨⟨q', rest⟩, h, hrest⟩
    cases rest with
    | nil => rw [h, pure_eq_ok.1 hrest]
    | cons t rest => cases hrest
  · exact fun h => ⟨_, h, rfl⟩

/-- The clauses of a text add their statements one by one. -/
theorem readClauses_eq_ok {settings : Settings} {text : Text} {cs : List Clause} {q : Query}
    (hf : ∀ c ∈ cs, FieldsOperated (ofLocated c.tokens)) (hp : ∀ s ∈ done, s.Proper)
    (hu : Statement.Unrepeated done) {index : Nat} (hi : done.length = index) :
    readClauses settings text index (ofStatements done) cs = .ok q ↔
      ∃ ss, List.Forall₂ (fun c s => Statement.Written (ofLocated c.tokens) s) cs ss ∧
        (∀ s ∈ ss, s.Within settings.maxValues) ∧
        (ss = [] ∨ (done ++ ss).length ≤ settings.maxClauses) ∧
        Statement.Unrepeated (done ++ ss) ∧ q = ofStatements (done ++ ss) := by
  induction cs generalizing done index with
  | nil =>
    rw [readClauses, Except.ok.injEq, eq_comm]
    constructor
    · rintro rfl
      exact ⟨[], .nil, by simp, .inl rfl, by simpa using hu, by simp⟩
    · rintro ⟨_, ⟨⟩, -, -, -, rfl⟩
      simp
  | cons c cs ih =>
    have hc {q : Query} : readClause settings.maxValues (ofStatements done) c = .ok q ↔ _ :=
      readClause_eq_ok hp hu (hf c List.mem_cons_self)
    rw [readClauses]
    split_ifs with hmax
    · refine ⟨fun h => (nomatch h), ?_⟩
      rintro ⟨_, _ | ⟨-, -⟩, -, hlen, -⟩
      simp only [reduceCtorEq, List.length_append, List.length_cons, false_or] at hlen
      omega
    · have hstep {s : Statement} (hs : s.Proper) (hus : Statement.Unrepeated (done ++ [s])) :
          readClauses settings text (index + 1) (ofStatements (done ++ [s])) cs = .ok q ↔ _ :=
        ih (fun c hc => hf c (List.mem_cons_of_mem _ hc)) (Statement.proper_append hp hs) hus
          (by simp [hi])
      constructor
      · intro h
        split at h
        · cases h
        · rename_i q' hq'
          obtain ⟨s, hw, hn, hus, rfl⟩ := hc.1 hq'
          obtain ⟨ss, hws, hns, hlen, hu', rfl⟩ := (hstep hw.proper hus).1 h
          refine ⟨s :: ss, .cons hw hws, by simpa using ⟨hn, hns⟩, .inr ?_, by simpa using hu',
            by simp⟩
          rcases hlen with rfl | hlen
          · simp; omega
          · simpa using hlen
      · rintro ⟨_, hws, hns, hlen, hu', rfl⟩
        cases hws with
        | @cons _ s _ ss hw hws =>
        rw [List.append_cons] at hu' hlen
        have hus := hu'.of_append
        rw [hc.2 ⟨s, hw, hns s List.mem_cons_self, hus, rfl⟩]
        refine (hstep hw.proper hus).2 ⟨ss, hws,
          fun s hs => hns s (List.mem_cons_of_mem _ hs), ?_, hu', by rw [List.append_cons]⟩
        exact .inr (hlen.resolve_left (List.cons_ne_nil _ _))

end Query

end ResourceQuery
