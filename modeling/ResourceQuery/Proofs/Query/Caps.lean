/-
  Resource queries — the limits of the settings.

  * `Query.Means`: the query that a text asks for, limits aside.
  * `parse_iff_means`: reading gives that query when the limits allow the text and the query, and
    nothing otherwise; a single value is always allowed.
  * `parse_within_limits`: so the limits are caps, but for the limit of no values
    (`exists_value_over_limit`).
  * `UpToLimits`, `parse_upToLimits`: the same text under lower limits, step by step.
  * `parse_tighter`: lower limits refuse texts, but change neither queries nor errors.
-/
import ResourceQuery.Proofs.Query.Joining

namespace ResourceQuery

open Outcome Token

/-- Whether the cause is that a limit has been passed. -/
def ParseError.Cause.IsLimit : ParseError.Cause → Prop
  | tooLong _ _ | tooManyClauses _ | tooManyValues _ _ => True
  | _ => False

namespace Settings

/-- Whether a text and its query stay within the limits. -/
structure Allows (settings : Settings) (text : Text) (q : Query) : Prop where
  length : Text.byteSize text ≤ settings.maxLength
  clauses : q.statements.length ≤ settings.maxClauses
  values : ∀ c ∈ q.criteria, c.literals.length ≤ settings.maxValues

/-- Whether no limit is higher than that of other settings. -/
structure Tighter (settings looser : Settings) : Prop where
  length : settings.maxLength ≤ looser.maxLength
  clauses : settings.maxClauses ≤ looser.maxClauses
  values : settings.maxValues ≤ looser.maxValues

/-- The limits that are enforced: one value is read where none is allowed. -/
def enforced (settings : Settings) : Settings :=
  { settings with maxValues := max 1 settings.maxValues }

variable {settings looser : Settings} {text : Text} {q : Query}

theorem Allows.mono (h : settings.Allows text q) (hle : settings.Tighter looser) :
    looser.Allows text q where
  length := h.length.trans hle.length
  clauses := h.clauses.trans hle.clauses
  values := fun c hc => (h.values c hc).trans hle.values

theorem tighter_enforced (settings : Settings) : settings.Tighter settings.enforced where
  length := le_rfl
  clauses := le_rfl
  values := le_max_right _ _

theorem Tighter.enforced (h : settings.Tighter looser) :
    settings.enforced.Tighter looser.enforced where
  length := h.length
  clauses := h.clauses
  values := by
    have := h.values
    simp only [Settings.enforced]
    omega

end Settings

namespace Query

/-! ## Queries without limits -/

/-- Whether a text asks for a query, limits aside: a blank text for everything, any other for what
    its pieces are written for. -/
def Means (text : Text) (q : Query) : Prop :=
  if (Text.trim text).isEmpty then q = .empty
  else ∃ ts ss, tokens? text = .ok ts ∧ List.Forall₂ Statement.Written (pieces ts) ss ∧
    Statement.Unrepeated ss ∧ q = ofStatements ss

variable {settings looser : Settings} {text : Text} {q : Query}

theorem allows_empty : settings.Allows text .empty ↔ Text.byteSize text ≤ settings.maxLength :=
  ⟨fun h => h.length, fun h => ⟨h, Nat.zero_le _, fun _ hc => nomatch hc⟩⟩

/-- Reading gives the query that a text asks for when the limits allow it. -/
theorem parse_iff_means :
    parse settings text = .ok q ↔ Means text q ∧ settings.enforced.Allows text q := by
  rw [parse_eq_ok_iff, Means]
  split
  · constructor
    · rintro ⟨hlength, rfl⟩
      exact ⟨rfl, allows_empty.2 hlength⟩
    · rintro ⟨rfl, h⟩
      exact ⟨h.length, rfl⟩
  · have hcount {ts : List Token} {ss : List Statement}
        (hws : List.Forall₂ Statement.Written (pieces ts) ss) (hu : Statement.Unrepeated ss) :
        (ofStatements ss).statements.length = ss.length :=
      length_statements_ofStatements (Statement.proper_of_written hws) hu
    constructor
    · rintro ⟨hlength, ts, ss, hts, hws, hvalues, hclauses, hu, rfl⟩
      exact ⟨⟨ts, ss, hts, hws, hu, rfl⟩, hlength, (hcount hws hu).trans_le hclauses,
        within_iff_criteria.1 hvalues⟩
    · rintro ⟨⟨ts, ss, hts, hws, hu, rfl⟩, hlength, hclauses, hvalues⟩
      exact ⟨hlength, ts, ss, hts, hws, within_iff_criteria.2 hvalues,
        (hcount hws hu).symm.trans_le hclauses, hu, rfl⟩

/-- A limit of no values is one of a single value. -/
theorem parse_zero_values (h : settings.maxValues = 0) :
    parse settings text = .ok q ↔ parse { settings with maxValues := 1 } text = .ok q := by
  have henforced : settings.enforced = { settings with maxValues := 1 } := by
    rw [Settings.enforced, h]
    rfl
  rw [parse_iff_means, parse_iff_means, henforced]
  rfl

/-! ## Caps -/

/-- **The limits are caps.**  A text that is read is no longer than the limit, and its query has no
    more clauses and no more values in a criterion than the limits, unless no values are allowed
    at all: then a single value is read, as where one is allowed. -/
theorem parse_within_limits (h : parse settings text = .ok q) :
    Text.byteSize text ≤ settings.maxLength ∧ q.statements.length ≤ settings.maxClauses ∧
      (∀ c ∈ q.criteria, c.literals.length ≤ settings.maxValues ∨
        settings.maxValues = 0 ∧ c.literals.length = 1) ∧
      (settings.maxValues = 0 → parse { settings with maxValues := 1 } text = .ok q) := by
  obtain ⟨hlength, hclauses, hvalues⟩ := (parse_iff_means.1 h).2
  refine ⟨hlength, hclauses, fun c hc => ?_, fun hzero => (parse_zero_values hzero).1 h⟩
  have hone : c.literals.length ≤ max 1 settings.maxValues := hvalues c hc
  omega

/-- Two clauses, three values and eighteen bytes, as many as the limits allow. -/
theorem parse_within_limits_full :
    ∃ q, parse { maxClauses := 2, maxValues := 3, maxLength := 18 } "a=in=1,2,3;b=null=".toList =
        .ok q ∧ q.statements.length = 2 ∧
      ∀ c ∈ q.criteria, c.literals.length ≤ 3 := by
  have hread : (parse { maxClauses := 2, maxValues := 3, maxLength := 18 }
      "a=in=1,2,3;b=null=".toList).map (·.statements.length) = .ok 2 := by decide +kernel
  obtain ⟨q, hq, hcount⟩ := map_eq_ok.1 hread
  obtain ⟨-, -, hvalues, -⟩ := parse_within_limits hq
  exact ⟨q, hq, hcount, fun c hc => (hvalues c hc).resolve_right fun h => nomatch h.1⟩

/-- The first value of a criterion is read where the limit allows none. -/
theorem exists_value_over_limit :
    ∃ q, parse { maxValues := 0 } "a=eq=1".toList = .ok q ∧
      ∃ c ∈ q.criteria, ¬ c.literals.length ≤ 0 := by
  have hread : (parse { maxValues := 0 } "a=eq=1".toList).map
      (fun q => q.criteria.map (·.literals.length)) = .ok [1] := by decide +kernel
  obtain ⟨q, hq, hvalues⟩ := map_eq_ok.1 hread
  obtain ⟨c, hc, hlength⟩ : ∃ c ∈ q.criteria, c.literals.length = 1 :=
    List.mem_map.1 (hvalues ▸ List.mem_cons_self)
  exact ⟨q, hq, c, hc, by omega⟩

/-! ## Lower limits -/

/-- Whether two outcomes are the same, unless the first is that a limit has been passed. -/
inductive UpToLimits {α : Type} : Except ParseError α → Except ParseError α → Prop
  | same (x : Except ParseError α) : UpToLimits x x
  | refused {e : ParseError} (x : Except ParseError α) : e.cause.IsLimit → UpToLimits (.error e) x

namespace UpToLimits

variable {α β : Type} {x y : Except ParseError α}

theorem bind {f g : α → Except ParseError β} (h : UpToLimits x y)
    (hfg : ∀ a, UpToLimits (f a) (g a)) : UpToLimits (x >>= f) (y >>= g) := by
  cases h with
  | refused y he => exact .refused _ he
  | same x =>
    cases x with
    | error e => exact .same _
    | ok a => exact hfg a

theorem map {f : α → β} (h : UpToLimits x y) : UpToLimits (x.map f) (y.map f) := by
  cases h with
  | refused y he => exact .refused _ he
  | same x => exact .same _

theorem eq_or (h : UpToLimits x y) : x = y ∨ ∃ e, x = .error e ∧ e.cause.IsLimit := by
  cases h with
  | refused y he => exact .inr ⟨_, rfl, he⟩
  | same x => exact .inl rfl

end UpToLimits

section
variable {limit limit' : Nat} (hle : limit ≤ limit') {target : Target} {c : Clause}
  {ts : List Located}
include hle

theorem readMoreValues_upToLimits (taken : Nat) :
    UpToLimits (readMoreValues limit target c taken ts)
      (readMoreValues limit' target c taken ts) := by
  fun_induction readMoreValues limit target c taken ts with
  | case1 taken start stop t ts hl =>
    rw [readMoreValues, hl]
    exact .same _
  | case2 taken start stop t ts l hl hlimit => exact .refused _ trivial
  | case3 taken start stop t ts l hl hlimit ih =>
    have hlimit' : ¬ limit' < taken + 1 := by omega
    conv => arg 2; rw [readMoreValues, hl]
    simp only [if_neg hlimit']
    exact ih.map
  | case4 taken start stop => exact .same _
  | case5 taken ts h₁ h₂ =>
    rw [readMoreValues.eq_3 _ _ _ _ _ h₁ h₂]
    exact .same _

theorem readValues_upToLimits {op : Operator} :
    UpToLimits (readValues limit target op c ts) (readValues limit' target op c ts) := by
  unfold readValues
  split
  · exact .same _
  · exact (UpToLimits.same _).bind fun r =>
      (readMoreValues_upToLimits hle 1).bind fun r => .same _

theorem readCriterion_upToLimits :
    UpToLimits (readCriterion limit target c ts) (readCriterion limit' target c ts) := by
  fun_cases readCriterion limit target c ts with
  | case1 op start stop ts => exact (readValues_upToLimits hle).bind fun r => .same _
  | case2 ts h =>
    rw [readCriterion.eq_2 _ _ _ _ h]
    exact .same _

theorem readFront_upToLimits {q : Query} :
    UpToLimits (readFront limit q c ts) (readFront limit' q c ts) := by
  unfold readFront
  split
  · exact .same _
  · split
    · exact (UpToLimits.same _).bind fun target =>
        (readCriterion_upToLimits hle).bind fun r => .same _
    · exact .same _
    · exact .same _
    · exact .same _

theorem readClause_upToLimits {q : Query} :
    UpToLimits (readClause limit q c) (readClause limit' q c) :=
  (readFront_upToLimits hle).bind fun _ => .same _

end

theorem readClauses_upToLimits (h : settings.Tighter looser) {index : Nat} {cs : List Clause} :
    UpToLimits (readClauses settings text index q cs) (readClauses looser text index q cs) := by
  induction cs generalizing index q with
  | nil => exact .same _
  | cons c cs ih =>
    have hclauses := h.clauses
    have hclause := readClause_upToLimits h.values (c := c) (q := q)
    rw [readClauses, readClauses]
    split
    · exact .refused _ trivial
    · have hmore : ¬ looser.maxClauses ≤ index := by omega
      rw [if_neg hmore]
      generalize readClause settings.maxValues q c = x at hclause
      generalize readClause looser.maxValues q c = y at hclause
      cases hclause with
      | refused y he => exact .refused _ he
      | same x =>
        cases x with
        | error e => exact .same _
        | ok q' => exact ih

/-- Under lower limits the outcome is the same, unless a limit has been passed. -/
theorem parse_upToLimits (h : settings.Tighter looser) :
    UpToLimits (parse settings text) (parse looser text) := by
  have hlength := h.length
  unfold parse
  split
  · exact .refused _ trivial
  · have hshort : ¬ looser.maxLength < Text.byteSize text := by omega
    rw [if_neg hshort]
    split
    · exact .same _
    · exact (UpToLimits.same _).bind fun ts => readClauses_upToLimits h

/-- **Limits refuse texts, and change nothing else.**  What is read under lower limits is read to
    the same query under higher ones; and what is read under the higher ones is read under the
    lower ones where the text and its query stay within them.  Errors are the same as well, but for
    those of a limit. -/
theorem parse_tighter (h : settings.Tighter looser) :
    (parse settings text = .ok q → parse looser text = .ok q) ∧
      (parse looser text = .ok q → settings.Allows text q → parse settings text = .ok q) ∧
      (parse settings text = parse looser text ∨
        ∃ e, parse settings text = .error e ∧ e.cause.IsLimit) := by
  refine ⟨fun hread => ?_, fun hread hallows => ?_, (parse_upToLimits h).eq_or⟩
  · obtain ⟨hmeans, hallows⟩ := parse_iff_means.1 hread
    exact parse_iff_means.2 ⟨hmeans, hallows.mono h.enforced⟩
  · obtain ⟨hmeans, -⟩ := parse_iff_means.1 hread
    exact parse_iff_means.2 ⟨hmeans, hallows.mono settings.tighter_enforced⟩

/-- A query at the lower limits, between separators that count for nothing. -/
theorem parse_tighter_separated :
    ∃ q, parse { maxClauses := 2, maxValues := 3, maxLength := 22 } ";a=in=1,2,3;&b=null=;;".toList =
        .ok q ∧ parse .standard ";a=in=1,2,3;&b=null=;;".toList = .ok q := by
  have htighter : Settings.Tighter { maxClauses := 2, maxValues := 3, maxLength := 22 } .standard :=
    ⟨by decide, by decide, by decide⟩
  have hread : (parse .standard ";a=in=1,2,3;&b=null=;;".toList).map (fun q =>
      (q.statements.length, q.criteria.all (·.literals.length ≤ 3))) = .ok (2, true) := by
    decide +kernel
  obtain ⟨q, hq, hcounts⟩ := map_eq_ok.1 hread
  obtain ⟨hclauses, hvalues⟩ := Prod.mk.inj hcounts
  have hallows : Settings.Allows { maxClauses := 2, maxValues := 3, maxLength := 22 }
      ";a=in=1,2,3;&b=null=;;".toList q :=
    ⟨by decide, hclauses.le, fun c hc => of_decide_eq_true (List.all_eq_true.1 hvalues c hc)⟩
  have hlower := (parse_tighter htighter).2.1 hq hallows
  exact ⟨q, hlower, (parse_tighter htighter).1 hlower⟩

end Query

end ResourceQuery
