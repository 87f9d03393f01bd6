/-
  Resource queries — gaps between tokens.

  * `Text.Spaced`: a text with further gaps in it, but none where it is closed.
  * `Token.Within`: the bytes inside the tokens, where a text is closed.
  * `Lexeme.classify_spaced`: a lexeme stays as it is when a gap is put in behind it.
  * `Lexeme.contents_spaced`, `Token.tokens?_spaced`: so gaps outside the tokens change none.
-/
import ResourceQuery.Proofs.Token.Front

namespace ResourceQuery

/-! ## Gaps -/

namespace Text

/-- Whether the second text is the first, which starts at byte `start`, with further gaps in it:
    in front of any byte of the first that is not closed, and at its end. -/
inductive Spaced (closed : Nat → Prop) : Nat → Text → Text → Prop
  | nil {start : Nat} : Spaced closed start [] []
  | keep {start : Nat} {c : Char} {t t' : Text} :
      Spaced closed (start + c.utf8Size) t t' → Spaced closed start (c :: t) (c :: t')
  | gap {start : Nat} {c : Char} {t t' : Text} : isGap c → ¬ closed start →
      Spaced closed start t t' → Spaced closed start t (c :: t')

variable {closed : Nat → Prop} {start : Nat} {t t' : Text}

namespace Spaced

/-- Where a text is closed, it is kept as it is. -/
theorem of_append {w : Text} (hclosed : ∀ p, start ≤ p → p < start + byteSize w → closed p)
    (h : Spaced closed start (w ++ t) t') :
    ∃ rest, t' = w ++ rest ∧ Spaced closed (start + byteSize w) t rest := by
  induction w generalizing start t' with
  | nil => exact ⟨t', rfl, h⟩
  | cons c w ih =>
    have hc := c.utf8Size_pos
    simp only [byteSize_cons] at hclosed ⊢
    cases h with
    | keep h =>
      obtain ⟨rest, rfl, hrest⟩ := ih (fun p hp hlt => hclosed p (by omega) (by omega)) h
      exact ⟨rest, rfl, by rwa [← Nat.add_assoc]⟩
    | gap _ hopen => exact absurd (hclosed start le_rfl (by omega)) hopen

/-- What is put in at the end, or in front of a character. -/
theorem exists_gaps (h : Spaced closed start t t') :
    ∃ gaps rest, t' = gaps ++ rest ∧ (∀ c ∈ gaps, isGap c) ∧
      ((t = [] ∧ rest = []) ∨
        ∃ c u u', t = c :: u ∧ rest = c :: u' ∧ Spaced closed (start + c.utf8Size) u u') := by
  induction h with
  | nil => exact ⟨[], [], rfl, List.forall_mem_nil _, .inl ⟨rfl, rfl⟩⟩
  | keep h => exact ⟨[], _, rfl, List.forall_mem_nil _, .inr ⟨_, _, _, rfl, rfl, h⟩⟩
  | @gap _ c _ _ hc _ _ ih =>
    obtain ⟨gaps, rest, rfl, hgaps, hrest⟩ := ih
    exact ⟨c :: gaps, rest, rfl, List.forall_mem_cons.2 ⟨hc, hgaps⟩, hrest⟩

/-- The text begins as before, or with a gap. -/
theorem head (h : Spaced closed start t t') : ∀ c ∈ t'.head?, isGap c ∨ c ∈ t.head? := by
  intro d hd
  cases h with
  | nil => cases hd
  | keep => exact .inr hd
  | gap hc =>
    obtain rfl := Option.some.inj hd
    exact .inl hc

/-- Gaps make no blank of a text that is none. -/
theorem forall_isBlank_iff (h : Spaced closed start t t') :
    (∀ c ∈ t', isBlank c) ↔ ∀ c ∈ t, isBlank c := by
  induction h with
  | nil => rfl
  | keep _ ih => rw [List.forall_mem_cons, List.forall_mem_cons, ih]
  | gap hc _ _ ih => rw [List.forall_mem_cons, ih, and_iff_right (isBlank_of_isGap hc)]

end Spaced

end Text

/-! ## Lexemes -/

namespace Lexeme

variable {closed : Nat → Prop} {start : Nat} {c : Char} {t t' : Text}

theorem contents_gaps {gaps : Text} (h : ∀ c ∈ gaps, Text.isGap c) (t : Text) :
    contents (gaps ++ t) = contents t := by
  induction gaps with
  | nil => rfl
  | cons c gaps ih =>
    obtain ⟨hc, hgaps⟩ := List.forall_mem_cons.1 h
    rw [List.cons_append, contents_gap hc, ih hgaps]

theorem not_isWordChar_of_isGap (h : Text.isGap c) : ¬ isWordChar c ∧ c ≠ '(' := by
  refine ⟨fun hword => not_isGap_of_isWordChar hword h, ?_⟩
  rintro rfl
  exact absurd h (by decide)

/-- A lexeme stays as it is when what stands behind it begins as before, or with a gap. -/
theorem classify_spaced {kind : Kind} {w rest rest' : Text} (hfits : Fits kind (c :: w) rest)
    (hregular : kind ≠ .unterminated ∧ kind ≠ .stray)
    (hrest : ∀ content ∈ contents rest, content.1 ≠ .stray)
    (hhead : ∀ d ∈ rest'.head?, Text.isGap d ∨ d ∈ rest.head?) :
    classify c (w ++ rest') = (kind, w.length) := by
  by_cases hclosed : kind.isClosed
  · exact hfits.classify_eq hclosed rest'
  cases hfits with
  | word hw hstop =>
    refine classify_append ⟨List.cons_ne_nil _ _, hw⟩ fun d hd => ?_
    rcases hhead d hd with hgap | hd
    · exact not_isWordChar_of_isGap hgap
    · -- a parenthesis that is not part of a directive would be a stray character
      refine ⟨hstop d hd, ?_⟩
      rintro rfl
      obtain ⟨u, rfl⟩ := List.head?_eq_some_iff.1 hd
      rw [contents_cons (by decide), classify_paren] at hrest
      exact hrest _ List.mem_cons_self rfl
  | unterminated => exact absurd rfl hregular.1
  | stray => exact absurd rfl hregular.2
  | _ => exact absurd rfl hclosed

/-- Gaps outside the lexemes of a text change none of them, when each of them is a token. -/
theorem contents_spaced (h : Text.Spaced closed start t t')
    (hregular : ∀ content ∈ contents t, content.1 ≠ .unterminated ∧ content.1 ≠ .stray)
    (hclosed : ∀ l ∈ scan start t, ∀ p, l.start < p → p < l.stop → closed p) :
    contents t' = contents t := by
  induction t using lexeme_induction generalizing start t' with
  | nil =>
    obtain ⟨gaps, _, rfl, hgaps, ⟨-, rfl⟩ | ⟨_, _, _, ⟨⟩, _⟩⟩ := h.exists_gaps
    exact contents_gaps hgaps []
  | gap c t hgap ih =>
    obtain ⟨gaps, _, rfl, hgaps, ⟨⟨⟩, _⟩ | ⟨_, _, t', ⟨⟩, rfl, ht⟩⟩ := h.exists_gaps
    rw [contents_gap hgap] at hregular
    rw [scan_gap hgap] at hclosed
    rw [contents_gaps hgaps, contents_gap hgap, contents_gap hgap, ih ht hregular hclosed]
  | lexeme c kind w rest hgap hkind hfits ih =>
    obtain ⟨gaps, _, rfl, hgaps, ⟨⟨⟩, _⟩ | ⟨_, _, t', ⟨⟩, rfl, ht⟩⟩ := h.exists_gaps
    rw [contents_lexeme hgap hkind, List.forall_mem_cons] at hregular
    rw [scan_lexeme hgap hkind, List.forall_mem_cons] at hclosed
    -- the lexeme is kept, as all bytes behind its first are inside it
    have hinside : ∀ p, start + c.utf8Size ≤ p → p < start + c.utf8Size + Text.byteSize w →
        closed p := by
      intro p hp hlt
      have hc := c.utf8Size_pos
      refine hclosed.1 p (by dsimp only; omega) ?_
      simp only [stop, Text.byteSize_cons]
      omega
    obtain ⟨rest', rfl, hrest⟩ := ht.of_append hinside
    have hsame : classify c (w ++ rest') = (kind, w.length) :=
      classify_spaced hfits hregular.1 (fun content hc => (hregular.2 content hc).2) hrest.head
    rw [Nat.add_assoc, ← Text.byteSize_cons] at hrest
    rw [contents_gaps hgaps, contents_lexeme hgap hkind, contents_lexeme hgap hsame,
      ih hrest hregular.2 hclosed.2]

end Lexeme

namespace Token

open Lexeme Outcome

/-- Whether a byte is inside a token, and not the first of it. -/
def Within (ts : List Located) (p : Nat) : Prop := ∃ t ∈ ts, t.start < p ∧ p < t.stop

instance (ts : List Located) (p : Nat) : Decidable (Within ts p) :=
  inferInstanceAs (Decidable (∃ t ∈ ts, _))

/-- Gaps outside the tokens of a text change none of them. -/
theorem tokens?_spaced {text text' : Text} {ts : List Located} (h : tokenize text = .ok ts)
    (hs : Text.Spaced (Within ts) 0 text text') : tokens? text' = .ok (ofLocated ts) := by
  have htokens := tokens?_of_tokenize h
  have hsame : contents text' = contents text := by
    refine contents_spaced hs (regular_of_ofContents htokens) fun l hl p hstart hstop => ?_
    obtain ⟨t, ht, -, htstart, htstop⟩ := forall₂_mem_left (forall₂_ofLexemes h) l hl
    exact ⟨t, ht, by rwa [htstart], by rwa [htstop]⟩
  rw [tokens?, hsame]
  exact htokens

end Token

end ResourceQuery
