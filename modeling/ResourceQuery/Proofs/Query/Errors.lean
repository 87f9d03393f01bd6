/-
  Resource queries — what the errors of a text point at.

  * `Query.PointsAt`: an error in a clause, with the number and the text of that clause and a
    position in it, when everything in front of the clause is a query.
  * `readClauses_eq_error`: clauses are refused at the first that cannot be read, or at the limit.
  * `parse_eq_error`: every error points at a clause, or is one of the tokens, of the length or of
    the limit on the clauses.
-/
import ResourceQuery.Proofs.Query.Caps
import ResourceQuery.Proofs.Query.Clauses
import ResourceQuery.Proofs.Query.Placement

namespace ResourceQuery

open Outcome Token

namespace Query

/-- Whether an error of a text points at the clause of number `k`, which stands behind `front` and
    ends at byte `stop`. -/
structure PointsAt (settings : Settings) (text : Text) (error : ParseError) (k : Nat)
    (front : Text) (stop : Nat) : Prop where
  clause : error.clause = some k
  /-- The clause of that number begins where the front of the text ends. -/
  stands : ∃ rest ts, text = front ++ rest ∧ tokenize text = .ok ts ∧
    Clause.StandsAt (Text.byteSize text) ts k (Text.byteSize front) stop
  /-- The text of the error is that of the clause, without the blanks at its ends. -/
  excerpt : error.text = some (Text.trim (Text.slice text (Text.byteSize front) stop))
  /-- The position is in the clause, or right behind it. -/
  position : ∃ p, error.position = some p ∧ Text.byteSize front ≤ p ∧ p ≤ stop
  /-- The clauses in front of it are a query of their own. -/
  accepted : ∃ q, parse settings front = .ok q ∧ q.statements.length = k

/-! ## The first clause that is refused -/

/-- Clauses are refused at the first that is over the limit, or cannot be added to the query of
    those before it. -/
theorem readClauses_eq_error {settings : Settings} {text : Text} {cs : List Clause} {index : Nat}
    {q : Query} {e : ParseError} (hindex : index ≤ settings.maxClauses)
    (h : readClauses settings text index q cs = .error e) :
    ∃ done c later q', cs = done ++ c :: later ∧
      readClauses settings text index q done = .ok q' ∧
      (index + done.length = settings.maxClauses ∧
          e = .located (.tooManyClauses settings.maxClauses) (c.position c.tokens) ∨
        ∃ e', readClause settings.maxValues q' c = .error e' ∧
          e = e'.inClause (index + done.length) (c.text text)) := by
  induction cs generalizing index q with
  | nil => cases h
  | cons c cs ih =>
    rw [readClauses] at h
    split at h
    · rename_i hmax
      have hlimit : index = settings.maxClauses := Nat.le_antisymm hindex hmax
      exact ⟨[], c, cs, q, rfl, rfl, .inl ⟨hlimit, (Except.error.inj h).symm⟩⟩
    rename_i hmax
    split at h
    · rename_i e' he'
      exact ⟨[], c, cs, q, rfl, rfl, .inr ⟨e', he', (Except.error.inj h).symm⟩⟩
    · rename_i q' hq'
      obtain ⟨done, d, later, q'', rfl, hdone, hd⟩ := ih (Nat.lt_of_not_le hmax) h
      refine ⟨c :: done, d, later, q'', rfl, ?_, ?_⟩
      · rw [readClauses, if_neg hmax, hq']
        exact hdone
      · rw [List.length_cons, Nat.add_comm done.length, ← Nat.add_assoc]
        exact hd

/-! ## The front of the text -/

/-- What stands in front of a clause asks for the query of its statements. -/
theorem means_of_opens {front : Text} {before : List Located} {ss : List Statement}
    (h : tokenize front = .ok before) (hopens : Clause.Opens before)
    (hws : List.Forall₂ Statement.Written (pieces (ofLocated before)) ss)
    (hu : Statement.Unrepeated ss) : Means front (ofStatements ss) := by
  rw [Means]
  split
  · rename_i hblank
    -- a blank front has no separator, and therefore no tokens
    have hnil : before = [] := by
      rcases List.eq_nil_or_concat' before with hnil | ⟨init, t, rfl⟩
      · exact hnil
      · exact absurd (List.isEmpty_iff.1 hblank)
          (trim_ne_nil_of_separator h (List.mem_append_right _ List.mem_cons_self)
            (hopens t (by simp)))
    subst hnil
    cases hws
    rfl
  · exact ⟨ofLocated before, ss, tokens?_of_tokenize h, hws, hu, rfl⟩

/-- The front of a text that holds the clauses which have been read is a query of their own. -/
theorem exists_parse_front {settings : Settings} {text front rest : Text} {size : Nat}
    {before : List Located} {q : Query} (htext : text = front ++ rest)
    (hlength : Text.byteSize text ≤ settings.maxLength) (hfront : tokenize front = .ok before)
    (hopens : Clause.Opens before)
    (h : readClauses settings text 0 .empty (Clause.ofTokens size before) = .ok q) :
    parse settings front = .ok q ∧ q.statements.length = (Clause.ofTokens size before).length := by
  have hf : ∀ c ∈ Clause.ofTokens size before, FieldsOperated (ofLocated c.tokens) := fun c hc =>
    Clause.fieldsOperated_of_mem (fieldsOperated_tokens (tokens?_of_tokenize hfront)) hc
  have hread : readClauses settings text 0 (ofStatements []) (Clause.ofTokens size before) =
      .ok q ↔ _ := readClauses_eq_ok hf
    (fun s (hs : s ∈ ([] : List Statement)) => nomatch hs) unrepeated_nil rfl
  obtain ⟨ss, hws, hvalues, hclauses, hu, rfl⟩ := hread.1 h
  have hwritten : List.Forall₂ Statement.Written (pieces (ofLocated before)) ss := by
    rw [← Clause.ofLocated_ofTokens size]
    exact List.forall₂_map_left_iff.2 hws
  have hcount : (ofStatements ss).statements.length = ss.length :=
    length_statements_ofStatements (Statement.proper_of_written hws) hu
  refine ⟨parse_iff_means.2 ⟨means_of_opens hfront hopens hwritten hu, ?_, ?_, ?_⟩, ?_⟩
  · rw [htext, Text.byteSize_append] at hlength
    exact (Nat.le_add_right _ _).trans hlength
  · show (ofStatements ss).statements.length ≤ settings.maxClauses
    rw [hcount]
    rcases hclauses with rfl | hclauses
    · exact Nat.zero_le _
    · exact hclauses
  · exact within_iff_criteria.1 hvalues
  · exact hcount.trans hws.length_eq.symm

/-! ## Errors of a text -/

/-- An error at a clause that cannot be added to the query of those before it points at it. -/
theorem exists_pointsAt {settings : Settings} {text : Text} {ts : List Located} {q : Query}
    {done later : List Clause} {c : Clause} {e : ParseError}
    (hlength : Text.byteSize text ≤ settings.maxLength) (hts : tokenize text = .ok ts)
    (hcs : Clause.ofTokens (Text.byteSize text) ts = done ++ c :: later)
    (hdone : readClauses settings text 0 .empty done = .ok q)
    (he : readClause settings.maxValues q c = .error e) :
    ∃ front stop, PointsAt settings text (e.inClause done.length (c.text text)) done.length
      front stop := by
  obtain ⟨before, first, own, after, htokens, rfl, rfl, hopens, hown, hafter, hstop⟩ :=
    Clause.ofTokens_eq_append hcs
  have hcovers := covers_of_tiles (Lexeme.tiles_scan 0 text) (forall₂_ofLexemes hts)
  -- the error has a position in the clause
  have hf : FieldsOperated (ofLocated c.tokens) :=
    Clause.fieldsOperated_of_mem (fieldsOperated_tokens (tokens?_of_tokenize hts))
      (hcs ▸ List.mem_append_right _ List.mem_cons_self)
  have hmeets : Meets c.Placed _ (readClause settings.maxValues q c) :=
    readClause_meets (by simp [htokens]) hf
  rw [he] at hmeets
  obtain ⟨hclause, htext, ⟨p, hp, hplace⟩, -⟩ := hmeets.of_error
  -- the text in front of the clause has the tokens in front of it
  have hshape : before ++ (first :: own) ++ after = before ++ first :: (own ++ after) := by simp
  obtain ⟨front, rest, hsplit, hsize, hfront⟩ := tokenize_front (hshape ▸ hts)
    (Clause.first_ne_operator (hshape ▸ operatorsNamed_tokens (tokens?_of_tokenize hts)) hopens)
  have hstart := Clause.start_le_of_covers hcovers
  obtain ⟨hparse, hcount⟩ := exists_parse_front hsplit hlength hfront hopens hdone
  have hposition : c.position c.tokens = Text.byteSize front := by
    rw [hsize, htokens]
    rfl
  refine ⟨front, c.stop, ?_, ?_, ?_, ⟨p, hp, ?_⟩, q, hparse, hcount⟩
  · simp [ParseError.inClause, hclause]
  · exact ⟨rest, _, hsplit, hts, hposition ▸ Clause.standsAt_of_ofTokens hcs⟩
  · simp [ParseError.inClause, htext, Clause.text, hposition]
  · rw [hsize, hstop]
    rcases hplace with rfl | ⟨t, ht, rfl⟩
    · have hfirst := hstart first List.mem_cons_self
      rw [hstop]
      exact ⟨hfirst.2, le_rfl⟩
    · exact hstart t (htokens ▸ ht)

/-- **Errors point at what is wrong.**  An error in a clause has the number of the clause among
    those that are not empty, its text, and a position in it; and everything in front of the clause
    is a query, with one statement for each clause before it.  An error without the number of a
    clause is one of the tokens or of the length, or stands at the first clause over the limit. -/
theorem parse_eq_error {settings : Settings} {text : Text} {error : ParseError}
    (h : parse settings text = .error error) :
    (∃ k front stop, PointsAt settings text error k front stop) ∨
      error.clause = none ∧ (tokenize text = .error error ∨
        settings.maxLength < Text.byteSize text ∧
          error = { cause := .tooLong (Text.byteSize text) settings.maxLength } ∨
        ∃ ts p stop, tokenize text = .ok ts ∧
          Clause.StandsAt (Text.byteSize text) ts settings.maxClauses p stop ∧
          error = .located (.tooManyClauses settings.maxClauses) p) := by
  rw [parse] at h
  split at h
  · rename_i hlength
    obtain rfl := Except.error.inj h
    exact .inr ⟨rfl, .inr (.inl ⟨hlength, rfl⟩)⟩
  rename_i hlength
  split at h
  · cases h
  cases hts : tokenize text with
  | error e =>
    rw [hts] at h
    obtain rfl : e = error := Except.error.inj h
    obtain ⟨_, l, _, _, -, -, -, he⟩ := ofLexemes_eq_error hts
    exact .inr ⟨by rw [he]; rfl, .inl rfl⟩
  | ok ts =>
    rw [hts] at h
    obtain ⟨done, c, later, q, hcs, hdone, hrefused⟩ := readClauses_eq_error (Nat.zero_le _) h
    rw [Nat.zero_add] at hrefused
    rcases hrefused with ⟨hlimit, rfl⟩ | ⟨e, he, rfl⟩
    · have hstands := Clause.standsAt_of_ofTokens hcs
      rw [hlimit] at hstands
      exact .inr ⟨rfl, .inr (.inr ⟨ts, _, _, rfl, hstands, rfl⟩)⟩
    · -- the clauses in front of the refused one have been read
      obtain ⟨front, stop, hpoints⟩ := exists_pointsAt (not_lt.1 hlength) hts hcs hdone he
      exact .inl ⟨_, front, stop, hpoints⟩

/-- The second clause of three, behind an empty one and a separator between quotes. -/
theorem parse_eq_error_second : ∃ error front stop,
    parse .standard "a=eq='é;b' ;; b=in=1,,2 &limit(x)".toList = .error error ∧
      error.position = some 22 ∧ error.text = some "b=in=1,,2".toList ∧
      PointsAt .standard "a=eq='é;b' ;; b=in=1,,2 &limit(x)".toList error 1 front stop := by
  have h : parse .standard "a=eq='é;b' ;; b=in=1,,2 &limit(x)".toList =
      .error { cause := .notAValue .comma, clause := some 1, text := some "b=in=1,,2".toList,
               position := some 22 } := by decide +kernel
  rcases parse_eq_error h with ⟨k, front, stop, hpoints⟩ | ⟨hnone, -⟩
  · obtain rfl := Option.some.inj hpoints.clause
    exact ⟨_, front, stop, h, rfl, rfl, hpoints⟩
  · cases hnone

end Query

end ResourceQuery
