/-
  Resource queries — texts and the grammar of clauses.

  * `Token.pieces`: the tokens of a text cut at its separators, without empty pieces.
  * `parse_eq_ok_iff`: what reading gives, limits included: the query of the statements that
    the pieces are written for.
  * `parse_iff_written`: where no limit is reached, reading accepts exactly what the grammar
    describes, and gives what it describes.
-/
import ResourceQuery.Proofs.Query.Statements

namespace ResourceQuery

open Outcome Token

namespace Token

/-! ## Pieces -/

/-- The tokens between separators, where there are any. -/
def pieces (ts : List Token) : List (List Token) :=
  (ts.splitOn .separator).filter fun piece => !piece.isEmpty

theorem splitOn_cons (t : Token) (ts : List Token) :
    (t :: ts).splitOn .separator =
      if t = .separator then [] :: ts.splitOn .separator
      else (ts.splitOn .separator).modifyHead (t :: ·) := by
  rw [List.splitOn, List.splitOnP_cons_eq_if_modifyHead]
  simp only [beq_iff_eq]
  rfl

/-- Nothing but separators is lost in the pieces. -/
theorem flatten_pieces_sublist (ts : List Token) : (pieces ts).flatten.Sublist ts := by
  rw [pieces, List.flatten_filter_not_isEmpty]
  induction ts with
  | nil => simp [List.splitOn]
  | cons t ts ih =>
    rw [splitOn_cons]
    split
    · simpa using ih.cons t
    · cases h : ts.splitOn .separator with
      | nil => simp
      | cons p ps =>
        rw [h] at ih
        simpa using ih

theorem length_pieces_le (ts : List Token) : (pieces ts).length ≤ ts.length := by
  have hne : ∀ p ∈ pieces ts, p ≠ [] := by simp [pieces]
  calc (pieces ts).length ≤ (pieces ts).flatten.length := by
        generalize pieces ts = ps at hne
        induction ps with
        | nil => simp
        | cons p ps ih =>
          have := List.length_pos_of_ne_nil (hne p List.mem_cons_self)
          have := ih fun q hq => hne q (List.mem_cons_of_mem _ hq)
          simp only [List.length_cons, List.flatten_cons, List.length_append]; omega
    _ ≤ ts.length := (flatten_pieces_sublist ts).length_le

theorem length_le_of_mem_pieces {ts p : List Token} (h : p ∈ pieces ts) :
    p.length ≤ ts.length :=
  (List.sublist_flatten_of_mem h).length_le.trans (flatten_pieces_sublist ts).length_le

end Token

namespace Clause

/-! ## Clauses -/

/-- Whether the tokens end or go on with a separator. -/
def Separates (ts : List Located) : Prop := ∀ t ∈ ts.head?, t.token = .separator

/-- Each clause is a stretch of the tokens, and its end is an end or a separator; the first
    clause begins where the tokens do. -/
theorem cut_eq_cons (size : Nat) : ∀ ts : List Located, ∃ c cs, cut size ts = c :: cs ∧
    (∃ after, ts = c.tokens ++ after ∧ Separates after) ∧
    ∀ d ∈ cs, ∃ before after, ts = before ++ d.tokens ++ after ∧ Separates after
  | [] => ⟨_, _, rfl, ⟨[], rfl, by simp [Separates]⟩, by simp⟩
  | t :: ts => by
    obtain ⟨c, cs, hcut, ⟨after, hts, hafter⟩, htail⟩ := cut_eq_cons size ts
    have htail' : ∀ d ∈ cs, ∃ before after,
        t :: ts = before ++ d.tokens ++ after ∧ Separates after := fun d hd => by
      obtain ⟨before, after, h, ha⟩ := htail d hd
      exact ⟨t :: before, after, by rw [h]; rfl, ha⟩
    rw [cut]
    split
    · rename_i ht
      refine ⟨_, _, rfl, ⟨t :: ts, rfl, by simpa [Separates] using ht⟩, ?_⟩
      intro d hd
      rw [hcut] at hd
      rcases List.mem_cons.1 hd with rfl | hd
      · exact ⟨[t], after, by rw [hts]; rfl, hafter⟩
      · exact htail' d hd
    · rw [hcut]
      exact ⟨_, _, rfl, ⟨after, by rw [hts]; rfl, hafter⟩, htail'⟩

/-- The clauses of a text hold its pieces. -/
theorem ofLocated_cut (size : Nat) (ts : List Located) :
    (cut size ts).map (fun c => ofLocated c.tokens) = (ofLocated ts).splitOn .separator := by
  induction ts with
  | nil => rfl
  | cons t ts ih =>
    rw [ofLocated_cons, splitOn_cons, ← ih, cut]
    split
    · rfl
    · obtain ⟨c, cs, hcut, -⟩ := cut_eq_cons size ts
      rw [hcut]
      rfl

theorem ofLocated_ofTokens (size : Nat) (ts : List Located) :
    (ofTokens size ts).map (fun c => ofLocated c.tokens) = pieces (ofLocated ts) := by
  rw [pieces, ← ofLocated_cut size, ofTokens, List.filter_map]
  congr 1
  refine List.filter_congr ?_
  intro c _
  simp [ofLocated]

/-- No field is parted from its operator. -/
theorem fieldsOperated_of_mem {size : Nat} {ts : List Located} {c : Clause}
    (hf : FieldsOperated (ofLocated ts)) (hc : c ∈ ofTokens size ts) :
    FieldsOperated (ofLocated c.tokens) := by
  have hmem := (List.mem_filter.1 hc).1
  obtain ⟨before, after, hts, hafter⟩ :
      ∃ before after, ts = before ++ c.tokens ++ after ∧ Separates after := by
    obtain ⟨d, ds, hcut, ⟨after, hts, hafter⟩, htail⟩ := cut_eq_cons size ts
    rw [hcut] at hmem
    rcases List.mem_cons.1 hmem with rfl | hmem
    · exact ⟨[], after, hts, hafter⟩
    · exact htail c hmem
  intro us path vs h
  obtain ⟨op, rest, hop⟩ := hf (ofLocated before ++ us) path (vs ++ ofLocated after) (by
    simp [hts, h])
  cases vs with
  | cons v vs => exact ⟨op, vs, by rw [(List.cons.inj hop).1]⟩
  | nil =>
    -- the clause would end between the field and its operator
    obtain ⟨start, stop, _, rfl, -⟩ := ofLocated_eq_cons.1 hop
    cases hafter _ rfl

end Clause

namespace Text

theorem trim_eq_nil {t : Text} : trim t = [] ↔ ∀ c ∈ t, isBlank c := by
  rw [trim, trimEnd, List.reverse_eq_nil_iff, List.dropWhile_eq_nil_iff]
  simp only [List.mem_reverse, trimStart]
  constructor
  · intro h c hc
    rw [← List.takeWhile_append_dropWhile (p := isBlank) (l := t)] at hc
    rcases List.mem_append.1 hc with hc | hc
    · exact List.mem_takeWhile_imp hc
    · exact h c hc
  · exact fun h c hc => h c ((List.dropWhile_sublist _).subset hc)

end Text

namespace Query

/-! ## Reading -/

theorem unrepeated_nil : Statement.Unrepeated [] := by simp [Statement.Unrepeated]

/-- Reading gives the query of the statements that the pieces of the text are written for, when
    the limits allow them and no directive is repeated. -/
theorem parse_eq_ok_iff {settings : Settings} {text : Text} {q : Query} :
    parse settings text = .ok q ↔
      text.byteSize ≤ settings.maxLength ∧
        if (Text.trim text).isEmpty then q = .empty
        else ∃ ts ss, tokens? text = .ok ts ∧ List.Forall₂ Statement.Written (pieces ts) ss ∧
          (∀ s ∈ ss, s.Within settings.maxValues) ∧ ss.length ≤ settings.maxClauses ∧
          Statement.Unrepeated ss ∧ q = ofStatements ss := by
  unfold parse
  by_cases hlength : settings.maxLength < text.byteSize
  · rw [if_pos hlength]
    exact ⟨fun h => (nomatch h), fun h => absurd h.1 (by omega)⟩
  rw [if_neg hlength, and_iff_right (by omega)]
  by_cases hblank : (Text.trim text).isEmpty
  · rw [if_pos hblank, if_pos hblank, Except.ok.injEq, eq_comm]
  rw [if_neg hblank, if_neg hblank, bind_eq_ok]
  have hread {located : List Located} (h : tokenize text = .ok located) :
      readClauses settings text 0 .empty (Clause.ofTokens text.byteSize located) = .ok q ↔ _ :=
    readClauses_eq_ok (fun c hc => Clause.fieldsOperated_of_mem
      (fieldsOperated_tokens (tokens?_of_tokenize h)) hc)
      (fun s (hs : s ∈ ([] : List Statement)) => (nomatch hs)) unrepeated_nil rfl
  constructor
  · rintro ⟨located, h, hq⟩
    obtain ⟨ss, hws, hns, hlen, hu, rfl⟩ := (hread h).1 hq
    refine ⟨_, ss, tokens?_of_tokenize h, ?_, hns, ?_, hu, rfl⟩
    · rw [← Clause.ofLocated_ofTokens text.byteSize]
      exact List.forall₂_map_left_iff.2 hws
    · rcases hlen with rfl | hlen
      · exact Nat.zero_le _
      · exact hlen
  · rintro ⟨_, ss, hts, hws, hns, hlen, hu, rfl⟩
    obtain ⟨located, h, rfl⟩ := exists_tokenize_iff.2 hts
    rw [← Clause.ofLocated_ofTokens text.byteSize] at hws
    exact ⟨located, h, (hread h).2 ⟨ss, List.forall₂_map_left_iff.1 hws, hns, .inr hlen, hu, rfl⟩⟩

theorem length_le_of_separated {α : Type} {Denotes : Token → α → Prop} {ts : List Token}
    {as : List α} (h : Separated Denotes ts as) : as.length ≤ ts.length := by
  induction h with
  | one => simp
  | more _ _ ih => simp only [List.length_cons]; omega

/-- A statement has no more values than tokens. -/
theorem within_of_written {ts : List Token} {s : Statement} (h : Statement.Written ts s) {n : Nat}
    (hn : ts.length ≤ n) : s.Within n := by
  cases h with
  | unary _ ha => simp [Statement.Within, literals_eq_nil ha]
  | compared _ _ hs =>
    have := length_le_of_separated hs
    simp only [List.length_cons] at hn
    simp only [Statement.Within]; omega
  | _ => trivial

/-- Where no limit is reached, a text is read as a query exactly when its tokens are pieces that
    are written for statements, none of them repeated; and the query is theirs. -/
theorem parse_iff_written {settings : Settings} {text : Text}
    (hblank : ¬ ∀ c ∈ text, Text.isBlank c) (hlength : text.byteSize ≤ settings.maxLength)
    (hlimits : ∀ ts, tokenize text = .ok ts →
      ts.length ≤ settings.maxClauses ∧ ts.length ≤ settings.maxValues) (q : Query) :
    parse settings text = .ok q ↔
      ∃ ts ss, tokenize text = .ok ts ∧
        List.Forall₂ Statement.Written (pieces (ofLocated ts)) ss ∧
        Statement.Unrepeated ss ∧ q = ofStatements ss := by
  rw [parse_eq_ok_iff, and_iff_right hlength,
    if_neg (by rwa [List.isEmpty_iff, Text.trim_eq_nil])]
  constructor
  · rintro ⟨_, ss, hts, hws, -, -, hu, rfl⟩
    obtain ⟨ts, h, rfl⟩ := exists_tokenize_iff.2 hts
    exact ⟨ts, ss, h, hws, hu, rfl⟩
  · rintro ⟨ts, ss, h, hws, hu, rfl⟩
    obtain ⟨hclauses, hvalues⟩ := hlimits ts h
    have hlen : (ofLocated ts).length = ts.length := List.length_map _
    refine ⟨_, ss, tokens?_of_tokenize h, hws, fun s hs => ?_, ?_, hu, rfl⟩
    · obtain ⟨p, hp, hw⟩ := forall₂_mem_right hws s hs
      exact within_of_written hw ((length_le_of_mem_pieces hp).trans (hlen.trans_le hvalues))
    · rw [← hws.length_eq]
      exact (length_pieces_le _).trans (hlen.trans_le hclauses)

/-- Two clauses, with an empty one between them. -/
theorem parse_iff_written_between : ∃ q, parse .standard "age=bt=18,30;;sort(-name)".toList = .ok q ∧
    ∃ ts ss, tokenize "age=bt=18,30;;sort(-name)".toList = .ok ts ∧
      List.Forall₂ Statement.Written (pieces (ofLocated ts)) ss ∧
      Statement.Unrepeated ss ∧ q = ofStatements ss := by
  have hok : (parse .standard "age=bt=18,30;;sort(-name)".toList).isOk = true := by decide +kernel
  have hblank : ¬ ∀ c ∈ "age=bt=18,30;;sort(-name)".toList, Text.isBlank c := fun h =>
    absurd (h 'a' (by decide)) (by decide)
  have hcount : (tokenize "age=bt=18,30;;sort(-name)".toList).map List.length = .ok 10 := by
    decide +kernel
  cases h : parse .standard "age=bt=18,30;;sort(-name)".toList with
  | error e => rw [h] at hok; cases hok
  | ok q =>
    refine ⟨q, rfl, (parse_iff_written hblank (by decide) ?_ q).1 h⟩
    intro ts hts
    rw [hts] at hcount
    have : ts.length = 10 := Except.ok.inj hcount
    rw [this]
    decide

end Query

end ResourceQuery
