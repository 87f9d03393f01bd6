/-
  Resource queries — operators and what they are attached to.

  * `Token.Encloses`: the tokens behind which an argument of a directive stands.
  * `Token.exists_mem_pieces`: tokens without a separator among them lie within one piece.
  * `Statement.Written.not_mem_field`: no clause with a directive has a field.
  * `not_isDetached_of_parse`: no text is refused for a field without an operator or for a clause
    without tokens.
  * `operators_attached`: operators stand right behind fields, which the reading relies on.
-/
import ResourceQuery.Proofs.Query.Errors

namespace ResourceQuery

open Outcome Token

namespace Token

/-- Whether what stands right behind the tokens is an argument of a directive: a directive is
    among them, and neither a closing parenthesis nor a separator behind it. -/
def Encloses (ts : List Token) : Prop :=
  ∃ before name args, ts = before ++ .directive name :: args ∧
    ∀ t ∈ args, t ≠ .close ∧ t ≠ .separator

/-! ## Pieces -/

variable {own : List Token}

theorem splitOn_append (h : ∀ t ∈ own, t ≠ .separator) (after : List Token) :
    (own ++ after).splitOn .separator = (after.splitOn .separator).modifyHead (own ++ ·) := by
  induction own with
  | nil => exact (congrFun List.modifyHead_id _).symm
  | cons t own ih =>
    obtain ⟨ht, hown⟩ := List.forall_mem_cons.1 h
    rw [List.cons_append, splitOn_cons, if_neg ht, ih hown, List.modifyHead_modifyHead]
    rfl

/-- Tokens without a separator among them lie within one piece. -/
theorem exists_mem_pieces (h : ∀ t ∈ own, t ≠ .separator) (hne : own ≠ [])
    (before after : List Token) : ∃ piece ∈ pieces (before ++ own ++ after), own ⊆ piece := by
  have hsplit : ∃ piece ∈ (before ++ own ++ after).splitOn .separator, own ⊆ piece := by
    induction before with
    | nil =>
      rw [List.nil_append, splitOn_append h]
      cases hafter : after.splitOn .separator with
      | nil => exact absurd hafter (List.splitOn_ne_nil _ _)
      | cons piece ps => exact ⟨own ++ piece, List.mem_cons_self, List.subset_append_left _ _⟩
    | cons t before ih =>
      obtain ⟨piece, hpiece, hsub⟩ := ih
      rw [List.cons_append, List.cons_append, splitOn_cons]
      split
      · exact ⟨piece, List.mem_cons_of_mem _ hpiece, hsub⟩
      · generalize (before ++ own ++ after).splitOn .separator = ps at hpiece
        cases hpiece with
        | head ps => exact ⟨t :: piece, List.mem_cons_self, List.subset_cons_of_subset t hsub⟩
        | tail p hpiece => exact ⟨piece, List.mem_cons_of_mem _ hpiece, hsub⟩
  obtain ⟨piece, hpiece, hsub⟩ := hsplit
  obtain ⟨t, ht⟩ := List.exists_mem_of_ne_nil own hne
  refine ⟨piece, List.mem_filter.2 ⟨hpiece, ?_⟩, hsub⟩
  simpa using List.ne_nil_of_mem (hsub ht)

end Token

/-! ## Directives and fields -/

section
variable {α : Type} {Denotes : Token → α → Prop} {ts : List Token} {as : List α}

theorem Separated.eq_comma_or (h : Separated Denotes ts as) {t : Token} (ht : t ∈ ts) :
    t = .comma ∨ ∃ a, Denotes t a := by
  induction h with
  | one ha =>
    obtain rfl := List.mem_singleton.1 ht
    exact .inr ⟨_, ha⟩
  | more ha _ ih =>
    rcases List.mem_cons.1 ht with rfl | ht
    · exact .inr ⟨_, ha⟩
    rcases List.mem_cons.1 ht with rfl | ht
    · exact .inl rfl
    · exact ih ht

theorem Separated.not_mem_field (h : Separated Denotes ts as)
    (hbare : ∀ t a, Denotes t a → ∃ w, t = .bare w) (name path : Text) :
    .field path ∉ .directive name :: ts ++ [.close] := by
  intro hmem
  have hpath : .field path ∈ ts := by simpa using hmem
  rcases h.eq_comma_or hpath with hcomma | ⟨a, ha⟩
  · cases hcomma
  · obtain ⟨w, hw⟩ := hbare _ a ha
    cases hw

end

/-- No clause with a directive has a field. -/
theorem Statement.Written.not_mem_field {ts : List Token} {s : Statement} (h : Written ts s)
    {name : Text} (hname : .directive name ∈ ts) (path : Text) : .field path ∉ ts := by
  cases h with
  | unary => simp at hname
  | compared _ _ hs =>
    simp only [List.mem_cons, reduceCtorEq, false_or] at hname
    rcases hs.eq_comma_or hname with hcomma | ⟨l, hl⟩
    · cases hcomma
    · cases hl
  | columns hs => exact hs.not_mem_field Query.exists_bare_of_target _ path
  | sort hs => exact hs.not_mem_field Query.exists_bare_of_key _ path
  | limit hs => exact hs.not_mem_field Query.exists_bare_of_count _ path
  | limitOffset hs => exact hs.not_mem_field Query.exists_bare_of_count _ path

namespace Query

variable {settings : Settings} {text : Text} {ts : List Located}

/-! ## Arguments -/

/-- A text with a directive among its tokens is no blank. -/
theorem trim_ne_nil_of_directive (h : tokenize text = .ok ts) {name : Text}
    (hname : .directive name ∈ ofLocated ts) : Text.trim text ≠ [] := by
  obtain ⟨t, ht, hdirective⟩ := List.mem_map.1 hname
  obtain ⟨s, hread, hsub⟩ := exists_readFrom h ht
  rw [hdirective] at hread
  rw [Ne, Text.trim_eq_nil]
  intro hblank
  cases hread with
  | directive => exact absurd (hblank '(' (hsub (by simp))) (by decide)

/-- No text with a field among the arguments of a directive is a query. -/
theorem parse_ne_ok_of_encloses (h : tokenize text = .ok ts) {before after : List Token}
    {path : Text} (hts : ofLocated ts = before ++ .field path :: after) (henc : Encloses before)
    (q : Query) : parse settings text ≠ .ok q := by
  intro hq
  obtain ⟨front, name, args, rfl, hargs⟩ := henc
  have hname : .directive name ∈ ofLocated ts := by simp [hts]
  have hblank : ¬ (Text.trim text).isEmpty := by
    rw [List.isEmpty_iff]
    exact trim_ne_nil_of_directive h hname
  have hwritten := (parse_eq_ok_iff.1 hq).2
  rw [if_neg hblank, tokens?_of_tokenize h] at hwritten
  obtain ⟨_, ss, ⟨⟩, hws, -⟩ := hwritten
  -- the directive and the field lie in one piece, which is written for a statement
  have hown : ∀ t ∈ .directive name :: (args ++ [.field path]), t ≠ .separator := by
    intro t ht
    rcases List.mem_cons.1 ht with rfl | ht
    · exact Token.noConfusion
    rcases List.mem_append.1 ht with ht | ht
    · exact (hargs t ht).2
    · rw [List.mem_singleton.1 ht]
      exact Token.noConfusion
  have hsplit : ofLocated ts = front ++ .directive name :: (args ++ [.field path]) ++ after := by
    simp [hts]
  obtain ⟨piece, hpiece, hsub⟩ := exists_mem_pieces hown (List.cons_ne_nil _ _) front after
  rw [← hsplit] at hpiece
  obtain ⟨s, -, hw⟩ := forall₂_mem_left hws piece hpiece
  exact hw.not_mem_field (hsub List.mem_cons_self) path (hsub (by simp))

/-! ## Errors -/

theorem not_isDetached_of_ofLexeme {named operated : Bool} {l : Lexeme} {cause : ParseError.Cause}
    (h : ofLexeme named operated l = .error cause) : ¬ cause.IsDetached := by
  unfold ofLexeme at h
  split at h
  case h_2 =>
    split at h
    · obtain rfl := Except.error.inj h
      exact id
    · split at h <;> cases h
      exact id
  all_goals cases h
  all_goals exact id

/-- No text is refused for a field without an operator, or for a clause without tokens. -/
theorem not_isDetached_of_parse {e : ParseError} (h : parse settings text = .error e) :
    ¬ e.cause.IsDetached := by
  rw [parse] at h
  split at h
  · obtain rfl := Except.error.inj h
    exact id
  split at h
  · cases h
  cases hts : tokenize text with
  | error e' =>
    rw [hts] at h
    obtain rfl : e' = e := Except.error.inj h
    obtain ⟨_, l, _, _, -, -, hl, -⟩ := ofLexemes_eq_error hts
    exact not_isDetached_of_ofLexeme hl
  | ok ts =>
    rw [hts] at h
    obtain ⟨done, c, later, q, hcs, -, hrefused⟩ := readClauses_eq_error (Nat.zero_le _) h
    rcases hrefused with ⟨-, rfl⟩ | ⟨e', he', rfl⟩
    · exact id
    · -- the clause has tokens, and no field of it is parted from its operator
      have hc : c ∈ Clause.ofTokens (Text.byteSize text) ts :=
        hcs ▸ List.mem_append_right _ List.mem_cons_self
      have hne : c.tokens ≠ [] := by simpa using (List.mem_filter.1 hc).2
      have hf := Clause.fieldsOperated_of_mem (fieldsOperated_tokens (tokens?_of_tokenize hts)) hc
      have hmeets : Meets c.Placed _ (readClause settings.maxValues q c) := readClause_meets hne hf
      rw [he'] at hmeets
      exact hmeets.of_error.attached

/-- **Operators are attached.**  An operator stands right behind every field, and a field or a
    quoted text right before every operator.  So no text is refused because an operator is missing
    or a clause ends before it begins, and no text is a query in which an argument of a directive
    is a field. -/
theorem operators_attached (text : Text) :
    (∀ ts, tokenize text = .ok ts →
        FieldsOperated (ofLocated ts) ∧ OperatorsNamed (ofLocated ts)) ∧
      (∀ settings e, parse settings text = .error e →
        e.cause ≠ .unexpectedEnd ∧ ∀ target, e.cause ≠ .missingOperator target) ∧
      ∀ ts before path after, tokenize text = .ok ts →
        ofLocated ts = before ++ .field path :: after → Encloses before →
        ∀ settings q, parse settings text ≠ .ok q := by
  refine ⟨fun ts hts => ?_, fun settings e he => ?_, fun ts before path after hts hsplit henc => ?_⟩
  · exact ⟨fieldsOperated_tokens (tokens?_of_tokenize hts),
      operatorsNamed_tokens (tokens?_of_tokenize hts)⟩
  · have hattached := not_isDetached_of_parse he
    constructor
    · intro hcause
      exact hattached (hcause ▸ trivial)
    · intro target hcause
      exact hattached (hcause ▸ trivial)
  · intro settings q
    exact parse_ne_ok_of_encloses hts hsplit henc q

/-- A column with an operator behind it. -/
theorem operators_attached_column :
    ∃ e, parse .standard "select(id, name=eq=1)".toList = .error e ∧ e.cause ≠ .unexpectedEnd ∧
      ∀ settings q, parse settings "select(id, name=eq=1)".toList ≠ .ok q := by
  have hts : (tokenize "select(id, name=eq=1)".toList).map ofLocated =
      .ok ([.directive "select".toList, .bare "id".toList, .comma] ++ .field "name".toList ::
        [.operator .equal, .bare "1".toList, .close]) := by decide +kernel
  have henc : Encloses [.directive "select".toList, .bare "id".toList, .comma] :=
    ⟨[], _, _, rfl, by simp⟩
  obtain ⟨-, herror, hrefused⟩ := operators_attached "select(id, name=eq=1)".toList
  obtain ⟨ts, h, hsplit⟩ := map_eq_ok.1 hts
  have hne := hrefused ts _ _ _ h hsplit henc
  cases he : parse .standard "select(id, name=eq=1)".toList with
  | ok q => exact absurd he (hne _ q)
  | error e => exact ⟨e, rfl, (herror _ e he).1, hne⟩

end Query

end ResourceQuery
