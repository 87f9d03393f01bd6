/-
  Resource queries — texts cut in front of a lexeme.

  * `Lexeme.lexeme_induction`: induction along the lexemes of a text, with the forms they have.
  * `Lexeme.Fits.classify_eq`: what stands behind a lexeme that shows where it ends plays no part.
  * `Lexeme.classify_front`: a lexeme stays as it is when the text is cut behind it, so long as
    something is cut off.
  * `Lexeme.scan_front`: so a text that is cut where one of its lexemes starts has the lexemes
    that stand in front of that one.
  * `Token.tokenize_front`: the same for tokens, unless the one that is cut off first is an
    operator.
-/
import ResourceQuery.Proofs.Token.Joining

namespace ResourceQuery

namespace Lexeme

variable {c : Char} {t : Text}

/-! ## The first lexeme -/

/-- The characters of the first lexeme behind its first one, and the rest of the text. -/
theorem exists_classify (c : Char) (t : Text) : ∃ kind w rest, t = w ++ rest ∧
    classify c t = (kind, w.length) ∧ Fits kind (c :: w) rest := by
  have hlength : (t.take (classify c t).2).length = (classify c t).2 := by
    rw [List.length_take, Nat.min_eq_left (length_classify_le c t)]
  refine ⟨(classify c t).1, t.take (classify c t).2, t.drop (classify c t).2,
    (List.take_append_drop _ _).symm, ?_, fits_classify c t⟩
  rw [hlength]

theorem scan_lexeme {kind : Kind} {w rest : Text} (hgap : ¬ Text.isGap c)
    (h : classify c (w ++ rest) = (kind, w.length)) (start : Nat) :
    scan start (c :: (w ++ rest)) =
      ⟨kind, c :: w, start⟩ :: scan (start + Text.byteSize (c :: w)) rest := by
  rw [scan_cons hgap, h]
  simp only [List.take_left, List.drop_left]

theorem contents_lexeme {kind : Kind} {w rest : Text} (hgap : ¬ Text.isGap c)
    (h : classify c (w ++ rest) = (kind, w.length)) :
    contents (c :: (w ++ rest)) = (kind, c :: w) :: contents rest := by
  rw [contents_cons hgap, h]
  simp only [List.take_left, List.drop_left]

/-- Induction along the lexemes of a text, with the forms that they have. -/
theorem lexeme_induction {P : Text → Prop} (nil : P [])
    (gap : ∀ c t, Text.isGap c → P t → P (c :: t))
    (lexeme : ∀ c kind w rest, ¬ Text.isGap c → classify c (w ++ rest) = (kind, w.length) →
      Fits kind (c :: w) rest → P rest → P (c :: (w ++ rest))) (t : Text) : P t := by
  induction t using scan_induction with
  | nil => exact nil
  | gap c t hgap ih => exact gap c t hgap ih
  | lexeme c t hgap ih =>
    obtain ⟨kind, w, rest, rfl, hkind, hfits⟩ := exists_classify c t
    rw [hkind, List.drop_left] at ih
    exact lexeme c kind w rest hgap hkind hfits ih

/-! ## Kinds -/

theorem classify_paren (t : Text) : classify '(' t = (.stray, 0) := rfl

theorem classify_equals (h : operatorTail? '=' t = none) : classify '=' t = (.stray, 0) := by
  have hname : directiveTail? '=' t = none := rfl
  simp [classify, hname, h, isQuote, isWordChar]

/-- No operator begins with an equals sign without letters and another one behind it. -/
theorem operatorTail?_eq_none_iff :
    operatorTail? '=' t = none ↔
      ∀ letters rest, letters ≠ [] → (∀ d ∈ letters, d.isAlpha) → t ≠ letters ++ '=' :: rest := by
  constructor
  · rintro h letters rest hne hletters rfl
    have hkind := classify_operator hne hletters rest
    rw [classify_equals h] at hkind
    cases hkind
  · intro h
    cases ho : operatorTail? '=' t with
    | none => rfl
    | some n =>
      obtain ⟨letters, rest, -, ht, hne, hletters, -⟩ := exists_letters ho
      exact absurd ht (h letters rest hne hletters)

/-- A word character that opens no directive begins a word. -/
theorem classify_of_directiveTail? (hc : isWordChar c) (hd : directiveTail? c t = none) :
    classify c t = (.word, (t.takeWhile isWordChar).length) := by
  have hne {d : Char} (hd : isWordChar d = false) : c ≠ d := ne_of_isWordChar hc hd
  have hquote : isQuote c = false := by simp [isQuote, hne (d := '"') rfl, hne (d := '\'') rfl]
  simp [classify, hd, operatorTail?_eq_none (hne (d := '=') rfl), hne (d := ';') rfl,
    hne (d := '&') rfl, hne (d := ',') rfl, hne (d := ')') rfl, hquote, hc]

/-- What begins nothing is an opening parenthesis, or an equals sign without letters and another
    one behind it. -/
theorem of_classify_stray (hgap : ¬ Text.isGap c) (h : (classify c t).1 = .stray) :
    c = '(' ∨ c = '=' ∧ operatorTail? '=' t = none := by
  by_cases hword : isWordChar c
  · rcases classify_of_isWordChar hword t with hkind | hkind <;> rw [hkind] at h <;> cases h
  by_cases hquote : isQuote c
  · rcases classify_of_isQuote hquote t with hkind | hkind <;> rw [hkind] at h <;> cases h
  simp only [isWordChar, hgap, hquote, Bool.false_or, Bool.or_false, Bool.not_eq_true,
    Bool.not_eq_false', List.contains_eq_mem, List.mem_cons, List.not_mem_nil, or_false,
    decide_eq_true_eq] at hword
  rcases hword with rfl | rfl | rfl | rfl | rfl | rfl
  · rw [classify_semicolon] at h; cases h
  · rw [classify_ampersand] at h; cases h
  · rw [classify_comma] at h; cases h
  · exact .inl rfl
  · rw [classify_close] at h; cases h
  · refine .inr ⟨rfl, operatorTail?_eq_none_iff.2 ?_⟩
    rintro letters rest hne hletters rfl
    rw [classify_operator hne hletters] at h
    cases h

/-! ## Cutting a text -/

/-- Whether the lexemes of a kind show in themselves where they end. -/
def Kind.isClosed : Kind → Bool
  | .word | .unterminated | .stray => false
  | _ => true

/-- A lexeme that shows where it ends stays as it is, whatever stands behind it. -/
theorem Fits.classify_eq {kind : Kind} {w rest : Text} (h : Fits kind (c :: w) rest)
    (hkind : kind.isClosed) (rest' : Text) : classify c (w ++ rest') = (kind, w.length) := by
  cases h with
  | directive hc hname =>
    rw [List.append_assoc, List.singleton_append, classify_directive hc hname, List.length_append]
    rfl
  | operator hne hletters =>
    rw [List.append_assoc, List.singleton_append, classify_operator hne hletters,
      List.length_append]
    rfl
  | semicolon => exact classify_semicolon _
  | ampersand => exact classify_ampersand _
  | comma => exact classify_comma _
  | close => exact classify_close _
  | quoted hquote hinside =>
    rw [List.append_assoc, List.singleton_append, classify_quoted hquote hinside,
      List.length_append]
    rfl
  | _ => cases hkind

/-- A lexeme stays as it is when the text is cut behind it, so long as something is cut off. -/
theorem classify_front {kind : Kind} {w v u : Text} (hgap : ¬ Text.isGap c) (hu : u ≠ [])
    (h : classify c (w ++ v ++ u) = (kind, w.length)) : classify c (w ++ v) = (kind, w.length) := by
  have hfits := fits_classify c (w ++ v ++ u)
  rw [h, List.append_assoc, List.take_left, List.drop_left] at hfits
  by_cases hclosed : kind.isClosed
  · exact hfits.classify_eq hclosed v
  generalize hrest : v ++ u = rest at hfits
  cases hfits with
  | word hw hstop =>
    -- a parenthesis right behind the word would be behind it in the longer text as well
    have hname : directiveTail? c (w ++ v) = none := by
      cases hd : directiveTail? c (w ++ v) with
      | none => rfl
      | some n =>
        obtain ⟨name, rest, hsplit, hc, hname, -⟩ := exists_name hd
        rw [hsplit, List.append_assoc, List.cons_append, classify_directive hc hname] at h
        cases h
    have htake : (w ++ v).takeWhile isWordChar = w := by
      rw [List.takeWhile_append_of_pos fun d hd => hw d (List.mem_cons_of_mem _ hd)]
      cases v with
      | nil => simp
      | cons d v =>
        have hd : ¬ isWordChar d := hstop d (by rw [← hrest]; rfl)
        simp [hd]
    rw [classify_of_directiveTail? (hw c List.mem_cons_self) hname, htake]
  | unterminated => exact absurd (List.append_eq_nil_iff.1 hrest).2 hu
  | stray =>
    rcases of_classify_stray hgap (congrArg Prod.fst h) with rfl | ⟨rfl, hnone⟩
    · exact classify_paren _
    · refine classify_equals (operatorTail?_eq_none_iff.2 ?_)
      rintro letters rest hne hletters rfl
      rw [List.nil_append, List.append_assoc, List.cons_append,
        classify_operator hne hletters] at h
      cases h
  | _ => exact absurd rfl hclosed

/-- A text that is cut where one of its lexemes starts has the lexemes in front of that one. -/
theorem scan_front {start : Nat} {before after : List Lexeme} {l : Lexeme}
    (h : scan start t = before ++ l :: after) :
    ∃ front c u, t = front ++ c :: u ∧ ¬ Text.isGap c ∧ scan start front = before ∧
      l = ⟨(classify c u).1, c :: u.take (classify c u).2, start + Text.byteSize front⟩ := by
  induction t using lexeme_induction generalizing start before with
  | nil =>
    rw [scan_nil] at h
    cases before <;> cases h
  | gap c t hgap ih =>
    rw [scan_gap hgap] at h
    obtain ⟨front, d, u, rfl, hd, hfront, hl⟩ := ih h
    refine ⟨c :: front, d, u, rfl, hd, by rw [scan_gap hgap, hfront], ?_⟩
    rw [hl, Text.byteSize_cons, Nat.add_assoc]
  | lexeme c kind w rest hgap hkind _ ih =>
    cases before with
    | nil =>
      rw [scan_cons hgap] at h
      obtain ⟨rfl, -⟩ := List.cons.inj h
      exact ⟨[], c, w ++ rest, rfl, hgap, scan_nil _, rfl⟩
    | cons b before =>
      rw [scan_lexeme hgap hkind] at h
      obtain ⟨rfl, hrest⟩ := List.cons.inj h
      obtain ⟨front, d, u, rfl, hd, hfront, hl⟩ := ih hrest
      -- the first lexeme is `c :: w`, and stays so when `d :: u` is cut off
      have hcut : classify c (w ++ front) = (kind, w.length) := by
        refine classify_front hgap (List.cons_ne_nil d u) ?_
        rwa [List.append_assoc]
      refine ⟨c :: (w ++ front), d, u, by simp, hd, ?_, ?_⟩
      · rw [scan_lexeme hgap hcut, hfront]
      · rw [hl, ← List.cons_append, Text.byteSize_append, Nat.add_assoc]

end Lexeme

namespace Token

open Lexeme Outcome

/-- Lexemes in front of others have the tokens that stand in front, unless the first of the
    others is an operator, which makes a word a field. -/
theorem ofLexemes_front {text : Text} {named : Bool} {before after : List Lexeme}
    {ts : List Located} (h : ofLexemes text named (before ++ after) = .ok ts)
    (hnext : after.head?.any (·.kind == .operator) = false) (text' : Text) :
    ofLexemes text' named before = .ok (ts.take before.length) := by
  induction before generalizing named ts with
  | nil => rfl
  | cons l before ih =>
    have hhead : (before ++ after).head?.any (·.kind == .operator) =
        before.head?.any (·.kind == .operator) := by
      cases before with
      | nil => exact hnext
      | cons => rfl
    rw [List.cons_append, ofLexemes, hhead] at h
    rw [ofLexemes]
    split at h
    · cases h
    · obtain ⟨us, hus, rfl⟩ := map_eq_ok.1 h
      rw [ih hus]
      rfl

/-- A text that is cut where one of its tokens starts has the tokens that stand in front of that
    one, unless it is an operator. -/
theorem tokenize_front {text : Text} {before after : List Located} {t : Located}
    (h : tokenize text = .ok (before ++ t :: after)) (ht : ∀ op, t.token ≠ .operator op) :
    ∃ front rest, text = front ++ rest ∧ Text.byteSize front = t.start ∧
      tokenize front = .ok before := by
  -- the lexemes fall apart where the tokens do
  have hrel := forall₂_ofLexemes h
  have hlength := (List.forall₂_take_append _ _ _ hrel).length_eq
  obtain ⟨l, ls, ⟨⟨named, operated, hl⟩, hstart, -⟩, -, hdrop⟩ :=
    List.forall₂_cons_right_iff.1 (List.forall₂_drop_append _ _ _ hrel)
  have hls : scan 0 text = (scan 0 text).take before.length ++ l :: ls := by
    rw [← hdrop, List.take_append_drop]
  have hkind : l.kind ≠ .operator := fun hk => by
    obtain ⟨op, hop⟩ := ofLexeme_operator hk hl
    exact ht op hop
  obtain ⟨front, c, u, htext, -, hfront, rfl⟩ := scan_front hls
  refine ⟨front, c :: u, htext, by rw [hstart, Nat.zero_add], ?_⟩
  rw [tokenize, hls] at h
  rw [tokenize, hfront, ofLexemes_front h (by simpa using hkind), hlength, List.take_left]

end Token

end ResourceQuery
