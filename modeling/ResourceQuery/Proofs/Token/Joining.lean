/-
  Resource queries — texts with a separator between them.

  * `Lexeme.classify_join`: no lexeme but an open quote reaches over a separator.
  * `Lexeme.contents_join`: so the lexemes of the whole are those of its parts, with the
    separator between them.
  * `Token.tokens?_join`: the same for tokens; an operator at the front of the second part has
    nothing to stand behind, as when the part stands alone.
-/
import ResourceQuery.Proofs.Token.Tiling

namespace ResourceQuery

/-! ## Lexemes -/

namespace Lexeme

variable {sep : Char} {p : Char → Bool}

/-- Whether a character separates clauses. -/
def IsSeparator (c : Char) : Prop := c = ';' ∨ c = '&'

theorem classify_separator (h : IsSeparator sep) (t : Text) : classify sep t = (.separator, 0) := by
  rcases h with rfl | rfl
  · exact classify_semicolon t
  · exact classify_ampersand t

theorem not_isGap_of_isSeparator (h : IsSeparator sep) : ¬ Text.isGap sep := by
  rcases h with rfl | rfl <;> decide

/-- What a character ends at the front of a text is not affected by what stands behind it. -/
theorem takeWhile_join (hp : p sep = false) (t rest : Text) :
    (t ++ sep :: rest).takeWhile p = t.takeWhile p := by
  induction t with
  | nil => simp [hp]
  | cons c t ih => simp only [List.cons_append, List.takeWhile_cons, ih]

theorem dropWhile_join (hp : p sep = false) (t rest : Text) :
    (t ++ sep :: rest).dropWhile p = t.dropWhile p ++ sep :: rest := by
  induction t with
  | nil => simp [hp]
  | cons c t ih =>
    simp only [List.cons_append, List.dropWhile_cons, ih]
    split <;> rfl

/-- A mark other than the separator stands right behind such a front in both texts or in
    neither. -/
theorem head?_dropWhile_join {mark : Char} (hp : p sep = false) (hne : sep ≠ mark)
    (t rest : Text) :
    ((t ++ sep :: rest).dropWhile p).head? = some mark ↔ (t.dropWhile p).head? = some mark := by
  rw [dropWhile_join hp]
  cases t.dropWhile p with
  | nil => simp [hne]
  | cons c t => rfl

theorem directiveTail?_join (h : IsSeparator sep) (c : Char) (t rest : Text) :
    directiveTail? c (t ++ sep :: rest) = directiveTail? c t := by
  have hp : isNamePart sep = false := by rcases h with rfl | rfl <;> decide
  have hne : sep ≠ '(' := by rcases h with rfl | rfl <;> decide
  simp only [directiveTail?, takeWhile_join hp, Bool.and_eq_true, beq_iff_eq,
    head?_dropWhile_join hp hne]

theorem operatorTail?_join (h : IsSeparator sep) (c : Char) (t rest : Text) :
    operatorTail? c (t ++ sep :: rest) = operatorTail? c t := by
  have hp : sep.isAlpha = false := by rcases h with rfl | rfl <;> decide
  have hne : sep ≠ '=' := by rcases h with rfl | rfl <;> decide
  simp only [operatorTail?, takeWhile_join hp, Bool.and_eq_true, beq_iff_eq,
    head?_dropWhile_join hp hne]

/-- A quote that is not left open has its partner in the text. -/
theorem exists_partner {quote : Char} {t : Text} (hquote : isQuote quote)
    (hclosed : (classify quote t).1 ≠ .unterminated) :
    ∃ s rest, t = s ++ quote :: rest ∧ Quoted.Inside quote s := by
  rw [classify_quote hquote] at hclosed
  cases hq : Quoted.closing? quote t with
  | some n =>
    obtain ⟨s, rest, ht, hs, -⟩ := Quoted.exists_inside hq
    exact ⟨s, rest, ht, hs⟩
  | none => simp [hq] at hclosed

/-- No lexeme but an open quote reaches over a separator. -/
theorem classify_join (h : IsSeparator sep) {c : Char} {t : Text}
    (hclosed : (classify c t).1 ≠ .unterminated) (rest : Text) :
    classify c (t ++ sep :: rest) = classify c t := by
  by_cases hquote : isQuote c
  · obtain ⟨s, u, rfl, hs⟩ := exists_partner hquote hclosed
    rw [List.append_assoc, List.cons_append, classify_quoted hquote hs, classify_quoted hquote hs]
  · have hword : isWordChar sep = false := by rcases h with rfl | rfl <;> decide
    simp only [classify, directiveTail?_join h, operatorTail?_join h, takeWhile_join hword,
      if_neg hquote]

/-- A lexeme takes no more characters than there are. -/
theorem length_classify_le (c : Char) (t : Text) : (classify c t).2 ≤ t.length := by
  cases hd : directiveTail? c t with
  | some n =>
    obtain ⟨name, rest, rfl, -, -, rfl⟩ := exists_name hd
    simp only [classify, hd, List.length_append, List.length_cons]
    omega
  | none =>
  cases ho : operatorTail? c t with
  | some n =>
    obtain ⟨letters, rest, -, rfl, -, -, rfl⟩ := exists_letters ho
    simp only [classify, hd, ho, List.length_append, List.length_cons]
    omega
  | none =>
  simp only [classify, hd, ho]
  split_ifs
  · exact Nat.zero_le _
  · exact Nat.zero_le _
  · exact Nat.zero_le _
  · cases hq : Quoted.closing? c t with
    | some n =>
      obtain ⟨s, rest, rfl, -, rfl⟩ := Quoted.exists_inside hq
      simp only [List.length_append, List.length_cons]
      omega
    | none => exact le_rfl
  · exact (List.takeWhile_prefix isWordChar).length_le
  · exact Nat.zero_le _

/-- Where no quote is left open, the lexemes of two texts stay as they are when a separator
    stands between the texts. -/
theorem contents_join (h : IsSeparator sep) {a : Text}
    (hclosed : ∀ content ∈ contents a, content.1 ≠ .unterminated) (b : Text) :
    contents (a ++ sep :: b) = contents a ++ (.separator, [sep]) :: contents b := by
  induction a using scan_induction with
  | nil =>
    rw [List.nil_append, contents_cons (not_isGap_of_isSeparator h), classify_separator h,
      contents_nil]
    rfl
  | gap c t hgap ih =>
    rw [contents_gap hgap] at hclosed ⊢
    rw [List.cons_append, contents_gap hgap, ih hclosed]
  | lexeme c t hgap ih =>
    rw [contents_cons hgap, List.forall_mem_cons] at hclosed
    have hle := length_classify_le c t
    rw [List.cons_append, contents_cons hgap, contents_cons hgap, classify_join h hclosed.1,
      List.take_append_of_le_length hle, List.drop_append_of_le_length hle, ih hclosed.2]
    rfl

end Lexeme

/-! ## Tokens -/

namespace Token

open Lexeme

variable {sep : Char}

/-- Nothing of what becomes tokens is an open quote, or a character that begins nothing. -/
theorem regular_of_ofContents {named : Bool} {cs : List (Kind × Text)} {ts : List Token}
    (h : ofContents named cs = .ok ts) :
    ∀ content ∈ cs, content.1 ≠ .unterminated ∧ content.1 ≠ .stray := by
  induction cs generalizing named ts with
  | nil => exact fun content hc => nomatch hc
  | cons c cs ih =>
    obtain ⟨kind, text⟩ := c
    obtain ⟨t, us, ht, hus, rfl⟩ := ofContents_cons h
    refine List.forall_mem_cons.2 ⟨⟨?_, ?_⟩, ih hus⟩
    · rintro rfl
      cases ht
    · rintro rfl
      cases ht

/-- Contents with a separator behind them become the same tokens, and after it everything
    starts anew. -/
theorem ofContents_join {named : Bool} {cs : List (Kind × Text)} {ts : List Token}
    (h : ofContents named cs = .ok ts) (ds : List (Kind × Text)) :
    ofContents named (cs ++ (.separator, [sep]) :: ds) =
      (ofContents false ds).map (ts ++ .separator :: ·) := by
  induction cs generalizing named ts with
  | nil =>
    obtain rfl := Except.ok.inj h
    rfl
  | cons c cs ih =>
    obtain ⟨kind, text⟩ := c
    obtain ⟨t, us, ht, hus, rfl⟩ := ofContents_cons h
    have hnext : (cs ++ (.separator, [sep]) :: ds).head?.any (·.1 == .operator) =
        cs.head?.any (·.1 == .operator) := by cases cs <;> rfl
    rw [List.cons_append, ofContents, hnext, ht]
    simp only [ih hus]
    cases ofContents false ds <;> rfl

/-- The tokens of two texts with a separator between them. -/
theorem tokens?_join (hsep : IsSeparator sep) {a : Text} {ts : List Token}
    (h : tokens? a = .ok ts) (b : Text) :
    tokens? (a ++ sep :: b) = (tokens? b).map (ts ++ .separator :: ·) := by
  have hclosed : ∀ content ∈ contents a, content.1 ≠ .unterminated := fun content hc =>
    (regular_of_ofContents h content hc).1
  rw [tokens?, contents_join hsep hclosed, ofContents_join h, ← tokens?]

end Token

end ResourceQuery
