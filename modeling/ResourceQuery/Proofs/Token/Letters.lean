/-
  Resource queries — tokens in either case.

  * `toLower_eq_iff`: no letter becomes a mark, so what a character is to the scanner does not
    depend on the case of letters.
  * `Lexeme.classify_lower`, `Lexeme.scan_lower`: so the lexemes of a text in lower case are those
    of the text, in lower case.
  * `Lexeme.forall₂_scan`: texts that differ in the case of letters fall apart at the same bytes.
-/
import ResourceQuery.Proofs.Token.Front

namespace ResourceQuery

/-! ## Characters -/

theorem isAlpha_iff (c : Char) :
    c.isAlpha ↔ (65 ≤ c.toNat ∧ c.toNat ≤ 90) ∨ (97 ≤ c.toNat ∧ c.toNat ≤ 122) := by
  delta Char.isAlpha Char.isUpper Char.isLower
  simp only [Bool.or_eq_true, Bool.and_eq_true, decide_eq_true_eq, ge_iff_le,
    UInt32.le_iff_toNat_le]
  exact Iff.rfl

theorem isAlpha_toLower (c : Char) : c.toLower.isAlpha = c.isAlpha := by
  rw [Bool.eq_iff_iff, isAlpha_iff, isAlpha_iff, toNat_toLower]
  split <;> omega

/-- No letter becomes a mark. -/
theorem toLower_eq_iff {c d : Char} (h : d.isAlpha = false) : c.toLower = d ↔ c = d := by
  have hmark : ¬ d.isAlpha := by rw [h]; exact Bool.false_ne_true
  rw [isAlpha_iff] at hmark
  rw [← Char.toNat_inj, ← Char.toNat_inj, toNat_toLower]
  split <;> omega

theorem toLower_beq {c d : Char} (h : d.isAlpha = false) : (c.toLower == d) = (c == d) := by
  rw [Bool.eq_iff_iff, beq_iff_eq, beq_iff_eq, toLower_eq_iff h]

namespace Text

theorem isGap_toLower (c : Char) : isGap c.toLower = isGap c := by
  simp only [isGap, toLower_beq (d := ' ') rfl, toLower_beq (d := '\t') rfl,
    toLower_beq (d := '\r') rfl, toLower_beq (d := '\n') rfl]

theorem isBlank_toLower (c : Char) : isBlank c.toLower = isBlank c := by
  rw [Bool.eq_iff_iff]
  simp only [isBlank, Bool.or_eq_true, Bool.and_eq_true, decide_eq_true_eq, beq_iff_eq,
    toNat_toLower]
  split <;> omega

theorem lower_append (s t : Text) : lower (s ++ t) = lower s ++ lower t := List.map_append

/-- Texts in lower case fall apart at the same characters. -/
theorem takeWhile_lower {p : Char → Bool} (hp : ∀ c, p c.toLower = p c) (t : Text) :
    (lower t).takeWhile p = lower (t.takeWhile p) := by
  rw [lower, List.takeWhile_map]
  exact congrArg (fun q => lower (t.takeWhile q)) (funext hp)

theorem dropWhile_lower {p : Char → Bool} (hp : ∀ c, p c.toLower = p c) (t : Text) :
    (lower t).dropWhile p = lower (t.dropWhile p) := by
  rw [lower, List.dropWhile_map]
  exact congrArg (fun q => lower (t.dropWhile q)) (funext hp)

theorem head?_lower {d : Char} (h : d.isAlpha = false) (t : Text) :
    ((lower t).head? == some d) = (t.head? == some d) := by
  cases t with
  | nil => rfl
  | cons c t => exact toLower_beq h

theorem trim_lower (t : Text) : trim (lower t) = lower (trim t) := by
  have hstart : trimStart (lower t) = lower (trimStart t) := dropWhile_lower isBlank_toLower t
  rw [trim, hstart, trimEnd, lower, ← List.map_reverse, ← lower, dropWhile_lower isBlank_toLower,
    lower, ← List.map_reverse]
  rfl

theorem split_lower {sep : Char} (h : sep.isAlpha = false) (t : Text) :
    split sep (lower t) = (split sep t).map lower := by
  induction t with
  | nil => rfl
  | cons c t ih =>
    show split sep (c.toLower :: lower t) = _
    rw [split, split, ih]
    by_cases hc : c = sep
    · rw [if_pos ((toLower_eq_iff h).2 hc), if_pos hc]
      rfl
    · rw [if_neg (mt (toLower_eq_iff h).1 hc), if_neg hc]
      cases split sep t <;> rfl

/-- A text without letters has only one spelling. -/
theorem eq_of_lower_eq {s t : Text} (h : lower s = lower t) (ht : ∀ c ∈ t, c.isAlpha = false) :
    s = t := by
  have hrel : List.Forall₂ (fun c d : Char => c.toLower = d.toLower) s t := by
    rw [lower, lower, ← List.forall₂_eq_eq_eq, List.forall₂_map_left_iff,
      List.forall₂_map_right_iff] at h
    exact h
  clear h
  induction hrel with
  | nil => rfl
  | @cons c d s t hcd _ ih =>
    obtain ⟨hd, ht⟩ := List.forall_mem_cons.1 ht
    rw [(toLower_eq_iff hd).2 rfl, toLower_eq_iff hd] at hcd
    rw [hcd, ih ht]

end Text

/-! ## Lexemes -/

namespace Quoted

theorem closing?_lower {quote : Char} (h : quote.isAlpha = false) (t : Text) :
    closing? quote (Text.lower t) = closing? quote t := by
  fun_induction closing? quote t with
  | case1 => rfl
  | case2 => rfl
  | case3 c t ih =>
    show (closing? quote (Text.lower t)).map (· + 2) = _
    rw [ih]
  | case4 t hlast hescape =>
    have hslash : quote ≠ '\\' := by
      rintro rfl
      cases t with
      | nil => exact hlast rfl rfl
      | cons c t => exact hescape c t rfl rfl
    show closing? quote (quote.toLower :: Text.lower t) = _
    rw [(toLower_eq_iff h).2 rfl, closing?.eq_4 _ _ _ (by simp [hslash]) (by simp [hslash]),
      if_pos rfl]
  | case5 c t hlast hescape hne ih =>
    have hslash : c.toLower ≠ '\\' := by
      rw [Ne, toLower_eq_iff rfl]
      rintro rfl
      cases t with
      | nil => exact hlast rfl rfl
      | cons c t => exact hescape c t rfl rfl
    show closing? quote (c.toLower :: Text.lower t) = _
    rw [closing?.eq_4 _ _ _ (by simp [hslash]) (by simp [hslash]),
      if_neg (mt (toLower_eq_iff h).1 hne), ih]

end Quoted

namespace Lexeme

variable {c : Char} {t : Text}

theorem isNameStart_toLower (c : Char) : isNameStart c.toLower = isNameStart c := by
  rw [isNameStart, isNameStart, isAlpha_toLower, toLower_beq (d := '_') rfl]

theorem isNamePart_toLower (c : Char) : isNamePart c.toLower = isNamePart c := by
  have halphanum : c.toLower.isAlphanum = c.isAlphanum := by
    rw [Bool.eq_iff_iff, isAlphanum_iff, isAlphanum_iff, toNat_toLower]
    split <;> omega
  rw [isNamePart, isNamePart, halphanum, toLower_beq (d := '_') rfl]

theorem isQuote_toLower (c : Char) : isQuote c.toLower = isQuote c := by
  rw [isQuote, isQuote, toLower_beq (d := '"') rfl, toLower_beq (d := '\'') rfl]

theorem isWordChar_toLower (c : Char) : isWordChar c.toLower = isWordChar c := by
  simp only [isWordChar, List.contains_cons, List.contains_nil, Text.isGap_toLower, isQuote_toLower,
    toLower_beq (d := ';') rfl, toLower_beq (d := '&') rfl, toLower_beq (d := ',') rfl,
    toLower_beq (d := '(') rfl, toLower_beq (d := ')') rfl, toLower_beq (d := '=') rfl]

theorem directiveTail?_lower (c : Char) (t : Text) :
    directiveTail? c.toLower (Text.lower t) = directiveTail? c t := by
  simp only [directiveTail?, Text.takeWhile_lower isNamePart_toLower,
    Text.dropWhile_lower isNamePart_toLower, Text.head?_lower (d := '(') rfl, isNameStart_toLower]
  rw [Text.lower, List.length_map]

theorem operatorTail?_lower (c : Char) (t : Text) :
    operatorTail? c.toLower (Text.lower t) = operatorTail? c t := by
  simp only [operatorTail?, Text.takeWhile_lower isAlpha_toLower,
    Text.dropWhile_lower isAlpha_toLower, Text.head?_lower (d := '=') rfl,
    toLower_beq (d := '=') rfl]
  rw [Text.lower, List.length_map, List.isEmpty_map]

/-- The case of letters does not decide what stands at the front of a text. -/
theorem classify_lower (c : Char) (t : Text) :
    classify c.toLower (Text.lower t) = classify c t := by
  by_cases hquote : isQuote c
  · have hmark : c.isAlpha = false := by
      simp only [isQuote, Bool.or_eq_true, beq_iff_eq] at hquote
      rcases hquote with rfl | rfl <;> rfl
    rw [(toLower_eq_iff hmark).2 rfl, classify_quote hquote, classify_quote hquote,
      Quoted.closing?_lower hmark, Text.lower, List.length_map]
  · simp only [classify, directiveTail?_lower, operatorTail?_lower, isQuote_toLower, if_neg hquote,
      isWordChar_toLower, Text.takeWhile_lower isWordChar_toLower, toLower_beq (d := ';') rfl,
      toLower_beq (d := '&') rfl, toLower_beq (d := ',') rfl, toLower_beq (d := ')') rfl]
    rw [Text.lower, List.length_map]

/-- The lexeme in lower case. -/
def lower (l : Lexeme) : Lexeme := { l with text := Text.lower l.text }

/-- The lexemes of a text in lower case are those of the text, in lower case. -/
theorem scan_lower (start : Nat) (t : Text) :
    scan start (Text.lower t) = (scan start t).map lower := by
  induction t using lexeme_induction generalizing start with
  | nil => simp only [Text.lower, List.map_nil, scan_nil]
  | gap c t hgap ih =>
    have hgap' : Text.isGap c.toLower := by rwa [Text.isGap_toLower]
    show scan start (c.toLower :: Text.lower t) = _
    rw [scan_gap hgap, scan_gap hgap', ih, Text.utf8Size_toLower]
  | lexeme c kind w rest hgap hkind _ ih =>
    have hgap' : ¬ Text.isGap c.toLower := by rwa [Text.isGap_toLower]
    have hkind' : classify c.toLower (Text.lower w ++ Text.lower rest) =
        (kind, (Text.lower w).length) := by
      rw [← Text.lower_append, classify_lower, hkind, Text.lower, List.length_map]
    have hsize : Text.byteSize (c.toLower :: Text.lower w) = Text.byteSize (c :: w) :=
      Text.byteSize_lower (c :: w)
    show scan start (c.toLower :: Text.lower (w ++ rest)) = _
    rw [Text.lower_append, scan_lexeme hgap' hkind', scan_lexeme hgap hkind, ih, hsize]
    rfl

/-- A lexeme is the part of the text that it takes up. -/
theorem slice_of_mem_scan {l : Lexeme} (h : l ∈ scan 0 t) :
    Text.slice t l.start l.stop = l.text := by
  obtain ⟨before, rest, hsplit, hstart, -⟩ := (tiles_scan 0 t).exists_split l h
  rw [Nat.zero_add] at hstart
  rw [stop, ← hstart, hsplit, Text.slice_append]

/-- Texts that differ in the case of letters fall apart at the same bytes, into lexemes that differ
    in the case of letters. -/
theorem forall₂_scan {t' : Text} (h : Text.lower t' = Text.lower t) :
    List.Forall₂ (fun l l' => lower l = lower l') (scan 0 t) (scan 0 t') := by
  have hlower : (scan 0 t).map lower = (scan 0 t').map lower := by
    rw [← scan_lower, ← scan_lower, h]
  rwa [← List.forall₂_eq_eq_eq, List.forall₂_map_left_iff, List.forall₂_map_right_iff] at hlower

theorem stop_eq_of_lower_eq {l l' : Lexeme} (h : lower l = lower l') : l.stop = l'.stop := by
  obtain ⟨-, htext, hstart⟩ := Lexeme.mk.inj h
  rw [stop, stop, hstart, ← Text.byteSize_lower, htext, Text.byteSize_lower]

end Lexeme

end ResourceQuery
