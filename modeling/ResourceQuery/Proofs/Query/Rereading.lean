/-
  Resource queries — reading queries that have not been written.

  * `Query.IsUnwritten`: a query none of whose literals has been written, without floats.
  * `Query.reread`: a query with every value as its literal denotes it.  It is the same query,
    and its criteria are alike, exactly when every year stands without a sign (`HasPlainYears`)
    and a clock shows the time of every instant (`IsClocked`): `same_reread_iff`, `alike_reread`.
  * `parse_render_of_isUnwritten`: such a query is read as the reread one.
  * `Query.Assembled`: the queries that are put together from targets and values, but floats and
    instants in a year with a sign.
  * `parse_render_of_assembled`: such a query is read, and as the same query exactly when a clock
    shows the time of every instant.
-/
import ResourceQuery.Proofs.Filter.Alike

namespace ResourceQuery

open Outcome

/-! ## Rereading -/

/-- A literal with the value that it denotes when it is written. -/
def Literal.reread (l : Literal) : Literal := .ofValue l.value.reread

/-- A criterion with the values that its literals denote when they are written. -/
def Criterion.reread (c : Criterion) : Criterion where
  target := c.target
  operator := c.operator
  literals := c.literals.map Literal.reread
  accepted := by rw [List.length_map]; exact c.accepted

/-- Whether two lists agree member by member when one is made from the other. -/
theorem Criterion.sameAll_map {α : Type} {same : α → α → Bool} {f : α → α} {as : List α} :
    sameAll same (as.map f) as ↔ ∀ a ∈ as, same (f a) a := by
  induction as with
  | nil => simp [sameAll]
  | cons a as ih => simp [sameAll, ih]

namespace Query

variable {q : Query}

/-- Whether no literal of a query has been written, and none is a float. -/
def IsUnwritten (q : Query) : Prop :=
  ∀ c ∈ q.criteria, ∀ l ∈ c.literals, l.bare = none ∧ l.value.dataType ≠ .float

/-- Whether every instant that a query compares with is in a year without a sign. -/
def HasPlainYears (q : Query) : Prop := ∀ c ∈ q.criteria, ∀ v ∈ c.values, v.HasPlainYear

/-- Whether a clock shows the time of every instant that a query compares with. -/
def IsClocked (q : Query) : Prop := ∀ c ∈ q.criteria, ∀ v ∈ c.values, v.IsClocked

instance (q : Query) : Decidable q.HasPlainYears :=
  inferInstanceAs (Decidable (∀ c ∈ q.criteria, ∀ v ∈ c.values, _))

instance (q : Query) : Decidable q.IsClocked :=
  inferInstanceAs (Decidable (∀ c ∈ q.criteria, ∀ v ∈ c.values, _))

/-- A query with the values that its literals denote when they are written. -/
def reread (q : Query) : Query := { q with criteria := q.criteria.map Criterion.reread }

theorem same_literal_iff {l : Literal} (hbare : l.bare = none) (hf : l.value.dataType ≠ .float) :
    l.reread.same l ↔ l.value.HasPlainYear ∧ l.value.IsClocked := by
  rw [← Value.same_reread_iff hf, Literal.same, Bool.and_eq_true, hbare]
  exact and_iff_left rfl

theorem same_criterion_iff {c : Criterion}
    (h : ∀ l ∈ c.literals, l.bare = none ∧ l.value.dataType ≠ .float) :
    c.reread.same c ↔ ∀ v ∈ c.values, v.HasPlainYear ∧ v.IsClocked := by
  have hparts : c.reread.same c ↔ Criterion.sameAll Literal.same c.reread.literals c.literals := by
    rw [Criterion.same, Bool.and_eq_true]
    refine and_iff_right ?_
    show (c.operator == c.operator && c.target == c.target) = true
    simp
  rw [hparts, Criterion.reread, Criterion.sameAll_map, Criterion.values, List.forall_mem_map]
  exact forall₂_congr fun l hl => same_literal_iff (h l hl).1 (h l hl).2

/-- Rereading leaves a query the same exactly when every year stands without a sign and a clock
    shows every time. -/
theorem same_reread_iff (h : q.IsUnwritten) :
    q.reread.same q ↔ q.HasPlainYears ∧ q.IsClocked := by
  have hparts : q.reread.same q ↔
      Criterion.sameAll Criterion.same q.reread.criteria q.criteria := by
    rw [same]
    show (q.projection == q.projection && _ && q.sort == q.sort && q.page == q.page) = true ↔ _
    simp
  rw [hparts, reread, Criterion.sameAll_map]
  calc (∀ c ∈ q.criteria, c.reread.same c)
      ↔ ∀ c ∈ q.criteria, ∀ v ∈ c.values, v.HasPlainYear ∧ v.IsClocked :=
        forall₂_congr fun c hc => same_criterion_iff (h c hc)
    _ ↔ q.HasPlainYears ∧ q.IsClocked := by simp only [HasPlainYears, IsClocked, forall_and]

/-- Then its criteria are alike as well. -/
theorem alike_reread (h : q.IsUnwritten) (hyears : q.HasPlainYears) (hclock : q.IsClocked) :
    List.Forall₂ Criterion.Alike q.reread.criteria q.criteria := by
  show List.Forall₂ Criterion.Alike (q.criteria.map Criterion.reread) q.criteria
  rw [List.forall₂_map_left_iff, List.forall₂_same]
  intro c hc
  refine ⟨rfl, rfl, ?_⟩
  show List.Forall₂ Literal.Alike (c.literals.map Literal.reread) c.literals
  rw [List.forall₂_map_left_iff, List.forall₂_same]
  intro l hl
  have hmem : l.value ∈ c.values := List.mem_map_of_mem hl
  have halike := Value.alike_reread (hyears c hc l.value hmem)
  rw [Value.shown_eq_self_iff.2 (hclock c hc l.value hmem)] at halike
  exact ⟨halike, (h c hc l hl).1.symm⟩

/-- What a query is read as whose literals have not been written. -/
theorem parse_render_of_isUnwritten {settings : Settings} (h : q.IsUnwritten)
    (hlength : q.render.byteSize ≤ settings.maxLength)
    (hvalues : ∀ c ∈ q.criteria, c.literals.length ≤ settings.maxValues)
    (hclauses : q.statements.length ≤ settings.maxClauses) :
    parse settings q.render = .ok q.reread := by
  have hstatements : List.Forall₂ Statement.RereadAs q.statements q.reread.statements := by
    refine rereadAs_statements ?_
    rw [List.forall₂_map_right_iff, List.forall₂_same]
    intro c hc
    refine Statement.rereadAs_criterion rfl rfl ?_
    show List.Forall₂ Literal.RereadAs c.literals (c.literals.map Literal.reread)
    rw [List.forall₂_map_right_iff, List.forall₂_same]
    intro l hl
    obtain ⟨hbare, hf⟩ := h c hc l hl
    have hl : l = .ofValue l.value := by rw [Literal.ofValue, ← hbare]
    rw [hl]
    exact Literal.rereadAs_ofValue hf
  refine parse_render hstatements hlength (fun s hs => ?_) ?_
  · cases s with
    | criterion c =>
      obtain ⟨c, hc, rfl⟩ := List.mem_map.1 (criterion_mem hs)
      show (c.literals.map Literal.reread).length ≤ max 1 settings.maxValues
      rw [List.length_map]
      exact (hvalues c hc).trans (le_max_right _ _)
    | _ => trivial
  · rwa [← hstatements.length_eq]

/-! ## Assembled queries -/

/-- The queries that are put together from nothing: with one more criterion on a target, and
    with columns, sort keys or a page in place of those before.  The values are no floats, and no
    instants in a year with a sign. -/
inductive Assembled : Query → Prop
  | empty : Assembled .empty
  | criterion {q : Query} {target : Target} {op : Operator} {values : List Value}
      {c : Criterion} : Assembled q →
      (∀ v ∈ values, v.dataType ≠ .float ∧ v.HasPlainYear) →
      Criterion.ofValues target op values = .ok c → Assembled (q.addCriterion c)
  | columns {q : Query} (targets : List Target) :
      Assembled q → Assembled { q with projection := targets }
  | sort {q : Query} (keys : List SortKey) : Assembled q → Assembled { q with sort := keys }
  | page {q : Query} (page : Option Page) : Assembled q → Assembled { q with page := page }

/-- The literals of an assembled query come from such values. -/
theorem Assembled.exists_value (h : q.Assembled) :
    ∀ c ∈ q.criteria, ∀ l ∈ c.literals, ∃ v : Value, l = .ofValue v ∧ v.dataType ≠ .float ∧
      v.HasPlainYear := by
  induction h with
  | empty => exact fun c hc => nomatch hc
  | @criterion q target op values c _ hvalues hc ih =>
    intro d hd l hl
    rcases List.mem_append.1 hd with hd | hd
    · exact ih d hd l hl
    · obtain rfl := List.mem_singleton.1 hd
      rw [(make_eq_ok.1 hc).2.2] at hl
      obtain ⟨v, hv, rfl⟩ := List.mem_map.1 hl
      exact ⟨v, rfl, hvalues v hv⟩
  | columns _ _ ih => exact ih
  | sort _ _ ih => exact ih
  | page _ _ ih => exact ih

theorem Assembled.isUnwritten (h : q.Assembled) : q.IsUnwritten := by
  intro c hc l hl
  obtain ⟨v, rfl, hf, -⟩ := h.exists_value c hc l hl
  exact ⟨rfl, hf⟩

theorem Assembled.hasPlainYears (h : q.Assembled) : q.HasPlainYears := by
  intro c hc v hv
  obtain ⟨l, hl, rfl⟩ := List.mem_map.1 hv
  obtain ⟨v, rfl, -, hyear⟩ := h.exists_value c hc l hl
  exact hyear

/-- **Assembled queries survive writing and reading.**  Whatever strings, numbers, truth values
    and days a query is assembled from, and whatever instants of years without a sign, its text
    is read when the limits allow it, and as the same query exactly when a clock shows the time of
    every instant. -/
theorem parse_render_of_assembled (h : q.Assembled) {settings : Settings}
    (hlength : q.render.byteSize ≤ settings.maxLength)
    (hclauses : q.statements.length ≤ settings.maxClauses)
    (hvalues : ∀ c ∈ q.criteria, c.literals.length ≤ settings.maxValues) :
    ∃ q', parse settings q.render = .ok q' ∧ (q'.same q ↔ q.IsClocked) :=
  ⟨q.reread, parse_render_of_isUnwritten h.isUnwritten hlength hvalues hclauses,
    (same_reread_iff h.isUnwritten).trans (and_iff_right h.hasPlainYears)⟩

/-- Values that are hard to write: quotes, a line break and a backslash, a number and nothing
    at all as strings, a decimal, a day before the common era and a leap second. -/
def unusualValues : List Value :=
  [.string "it's \"\\\n".toList, .string "007".toList, .string [], .decimal ⟨-150, 2⟩,
    .date ⟨-44, 3, 15, by decide⟩,
    .dateTime .leapSecond]

/-- A query with these values, columns, a sort key and a page. -/
def unusual : Query where
  projection := [.ofName "title".toList (by decide), ⟨["author".toList, "born".toList], by decide⟩]
  criteria := [⟨.ofName "title".toList (by decide), .oneOf, unusualValues.map .ofValue, by decide⟩]
  sort := [⟨.ofName "written".toList (by decide), .descending⟩]
  page := some ⟨10, 3⟩

theorem parse_render_of_assembled_unusual :
    unusual.Assembled ∧ unusual.IsClocked ∧
      ∃ q, parse .standard unusual.render = .ok q ∧ q.same unusual := by
  have hvalues : ∀ v ∈ unusualValues, v.dataType ≠ .float ∧ v.HasPlainYear := by decide +kernel
  have h : unusual.Assembled :=
    .page _ (.sort _ (.columns _ (.criterion .empty hvalues (make_eq_ok.2 ⟨rfl, rfl, rfl⟩))))
  have hclock : unusual.IsClocked := by decide +kernel
  have hlength : unusual.render.byteSize ≤ Settings.standard.maxLength := by decide +kernel
  obtain ⟨q, hq, hsame⟩ := parse_render_of_assembled h hlength (by decide) (by decide)
  exact ⟨h, hclock, q, hq, hsame.2 hclock⟩

/-- A criterion for what comes before an instant. -/
def joinedBefore (i : Instant) : Criterion :=
  ⟨.ofName "joined".toList (by decide), .lessThan, [.ofValue (.dateTime i)], rfl⟩

/-- A query for what comes before an instant whose time no clock shows. -/
def beforeOverrun : Query := .addCriterion .empty (joinedBefore .overrun)

/-- It is read as another query: what it compares with is written as the second after. -/
theorem exists_assembled_not_reread : beforeOverrun.Assembled ∧
    beforeOverrun.render = "joined=lt=2024-01-05T10:30:01.500Z".toList ∧
    ∃ q, parse .standard beforeOverrun.render = .ok q ∧ ¬ q.same beforeOverrun := by
  have hplain : ∀ v ∈ [Value.dateTime .overrun], v.dataType ≠ .float ∧ v.HasPlainYear := by
    decide +kernel
  have h : beforeOverrun.Assembled := .criterion .empty hplain (make_eq_ok.2 ⟨rfl, rfl, rfl⟩)
  have hclock : ¬ beforeOverrun.IsClocked := by decide +kernel
  refine ⟨h, by decide +kernel, _, parse_render_of_isUnwritten h.isUnwritten (by decide +kernel)
    (by decide) (by decide), fun hsame => hclock ?_⟩
  exact ((same_reread_iff h.isUnwritten).1 hsame).2

end Query

end ResourceQuery
