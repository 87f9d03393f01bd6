/-
  Resource queries — texts that are written for tokens.

  * `Quoted.closing?_append`: a quoted text reaches up to the first quote after its inside.
  * `Quoted.unescapes_unescape`: the escapes of what may stand between quotes can be undone.
  * `Token.Reads`: a text has the given tokens, whatever stands before it.
  * `Token.Spells`: a text adds the given tokens to those of what is written after it, as long
    as that begins with a mark at which words end (`Stops`).
  * `spells_word`, `spells_quoted`, `reads_criterion`, `reads_directive`, `reads_mark`: the
    texts of the single tokens.
  * `exists_separated`, `spells_joined`: texts with commas and with semicolons between them.
-/
import Mathlib.Data.List.Forall2
import ResourceQuery.Proofs.Token.Content
import ResourceQuery.Query.Grammar
import ResourceQuery.Text.Letter
import ResourceQuery.Token.Grammar

namespace ResourceQuery

/-! ## Quotes -/

namespace Quoted

/-- A quoted text reaches up to the first quote after its inside. -/
theorem closing?_append {quote : Char} {s : Text} (h : Inside quote s) (hquote : quote ≠ '\\')
    (rest : Text) : closing? quote (s ++ quote :: rest) = some (s.length + 1) := by
  induction h with
  | nil =>
    rw [List.nil_append, closing?.eq_4 _ _ _ (by simp [hquote]) (by simp [hquote]), if_pos rfl]
    rfl
  | @plain c s hne hslash _ ih =>
    rw [List.cons_append, closing?.eq_4 _ _ _ (by simp [hslash]) (by simp [hslash]), if_neg hne, ih]
    rfl
  | @escaped c s _ ih =>
    rw [List.cons_append, List.cons_append, closing?, ih]
    rfl

/-- Undoing the escapes gives the text without them. -/
theorem Unescapes.unescape_eq {s t : Text} (h : Unescapes s t) : unescape s = t := by
  induction h with
  | nil => rfl
  | @plain c s t hslash _ ih => rw [unescape.eq_4 _ _ (by simp [hslash]) (by simp [hslash]), ih]
  | escaped _ ih => rw [unescape, ih]

theorem unescapes_unescape {quote : Char} {s : Text} (h : Inside quote s) :
    Unescapes s (unescape s) := by
  induction h with
  | nil => exact .nil
  | @plain c s _ hslash _ ih =>
    rw [unescape.eq_4 _ _ (by simp [hslash]) (by simp [hslash])]
    exact .plain hslash ih
  | escaped _ ih => exact .escaped ih

/-- A text with escapes may stand between double quotes. -/
theorem inside_escape (t : Text) : Inside '"' (escape t) := by
  induction t with
  | nil => exact .nil
  | cons c t ih =>
    show Inside '"' (escapeChar c ++ escape t)
    rw [escapeChar]
    split
    · exact .escaped ih
    · rename_i h
      simp only [Bool.or_eq_true, beq_iff_eq, not_or] at h
      exact .plain h.2 h.1 ih

end Quoted

namespace Lexeme

/-! ## Characters -/

/-- What is not part of a word is not part of a name either. -/
theorem isWordChar_of_isNamePart {c : Char} (h : isNamePart c) : isWordChar c := by
  cases hc : isWordChar c with
  | true => rfl
  | false =>
    simp only [isWordChar, Text.isGap, isQuote, Bool.not_eq_false', Bool.or_eq_true, beq_iff_eq,
      List.contains_eq_mem, List.mem_cons, List.not_mem_nil, or_false, decide_eq_true_eq] at hc
    rcases hc with ((((rfl | rfl) | rfl) | rfl) | rfl | rfl | rfl | rfl | rfl | rfl) | rfl | rfl <;>
      exact absurd h (by decide)

theorem isWordChar_of_isDigit {c : Char} (h : c.isDigit) : isWordChar c := by
  refine isWordChar_of_isNamePart ?_
  simp [isNamePart, Char.isAlphanum, h]

theorem not_isGap_of_isWordChar {c : Char} (h : isWordChar c) : ¬ Text.isGap c := by
  simp only [isWordChar, Bool.not_eq_true', Bool.or_eq_false_iff] at h
  simp [h.1.1]

theorem ne_of_isWordChar {c d : Char} (h : isWordChar c) (hd : isWordChar d = false) : c ≠ d := by
  rintro rfl
  rw [h] at hd
  cases hd

/-! ## Kinds -/

/-- A name that stands before anything but an opening parenthesis opens no directive. -/
theorem directiveTail?_eq_none {c : Char} {w rest : Text} (hw : ∀ d ∈ w, isWordChar d)
    (hrest : ∀ d ∈ rest.head?, ¬ isWordChar d ∧ d ≠ '(') : directiveTail? c (w ++ rest) = none := by
  have hhead : ((w ++ rest).dropWhile isNamePart).head? ≠ some '(' := by
    induction w with
    | nil =>
      cases rest with
      | nil => simp
      | cons d rest =>
        obtain ⟨hd, hne⟩ := hrest d rfl
        have hpart : ¬ isNamePart d := fun h => hd (isWordChar_of_isNamePart h)
        simpa [List.dropWhile_cons, hpart] using hne
    | cons d w ih =>
      rw [List.cons_append, List.dropWhile_cons]
      split
      · exact ih fun d hd => hw d (List.mem_cons_of_mem _ hd)
      · simpa using ne_of_isWordChar (hw d List.mem_cons_self) (d := '(') (by decide)
  simp [directiveTail?, hhead]

theorem operatorTail?_eq_none {c : Char} (h : c ≠ '=') (t : Text) : operatorTail? c t = none := by
  simp [operatorTail?, h]

theorem takeWhile_word {w rest : Text} (hw : ∀ d ∈ w, isWordChar d)
    (hrest : ∀ d ∈ rest.head?, ¬ isWordChar d ∧ d ≠ '(') :
    (w ++ rest).takeWhile isWordChar = w := by
  rw [List.takeWhile_append_of_pos hw]
  cases rest with
  | nil => simp
  | cons d rest => simp [(hrest d rfl).1]

/-- A word reaches up to the first character that is not part of words. -/
theorem classify_append {c : Char} {w rest : Text} (hw : IsWord (c :: w))
    (hrest : ∀ d ∈ rest.head?, ¬ isWordChar d ∧ d ≠ '(') :
    classify c (w ++ rest) = (.word, w.length) := by
  have hc : isWordChar c := hw.2 c List.mem_cons_self
  have hw' : ∀ d ∈ w, isWordChar d := fun d hd => hw.2 d (List.mem_cons_of_mem _ hd)
  have hne {d : Char} (hd : isWordChar d = false) : c ≠ d := ne_of_isWordChar hc hd
  have hquote : isQuote c = false := by simp [isQuote, hne (d := '"') rfl, hne (d := '\'') rfl]
  rw [classify, directiveTail?_eq_none hw' hrest, operatorTail?_eq_none (hne rfl),
    takeWhile_word hw' hrest]
  simp [hne (d := ';') rfl, hne (d := '&') rfl, hne (d := ',') rfl, hne (d := ')') rfl, hquote, hc]

theorem classify_comma (t : Text) : classify ',' t = (.comma, 0) := rfl

theorem classify_semicolon (t : Text) : classify ';' t = (.separator, 0) := rfl

theorem classify_close (t : Text) : classify ')' t = (.close, 0) := rfl

/-- An operator reaches up to its second equals sign. -/
theorem classify_operator {letters : Text} (hne : letters ≠ []) (h : ∀ c ∈ letters, c.isAlpha)
    (rest : Text) : classify '=' (letters ++ '=' :: rest) = (.operator, letters.length + 1) := by
  have htake : (letters ++ '=' :: rest).takeWhile Char.isAlpha = letters := by
    rw [List.takeWhile_append_of_pos h]; simp
  have hdrop : (letters ++ '=' :: rest).dropWhile Char.isAlpha = '=' :: rest := by
    rw [List.dropWhile_append_of_pos h]; simp
  simp only [classify, directiveTail?, operatorTail?, htake, hdrop]
  simp [isNameStart, hne]

/-- A directive reaches up to its parenthesis. -/
theorem classify_directive {c : Char} {name : Text} (hc : isNameStart c)
    (h : ∀ d ∈ name, isNamePart d) (rest : Text) :
    classify c (name ++ '(' :: rest) = (.directive, name.length + 1) := by
  have htake : (name ++ '(' :: rest).takeWhile isNamePart = name := by
    rw [List.takeWhile_append_of_pos h]; simp [isNamePart]
  have hdrop : (name ++ '(' :: rest).dropWhile isNamePart = '(' :: rest := by
    rw [List.dropWhile_append_of_pos h]; simp [isNamePart]
  simp [classify, directiveTail?, htake, hdrop, hc]

/-- A quote opens a text that reaches up to its partner, or takes the rest. -/
theorem classify_quote {quote : Char} (hquote : isQuote quote) (t : Text) :
    classify quote t = match Quoted.closing? quote t with
      | some n => (.quoted, n)
      | none => (.unterminated, t.length) := by
  simp only [isQuote, Bool.or_eq_true, beq_iff_eq] at hquote
  rcases hquote with rfl | rfl <;> rfl

/-- A quoted text reaches up to its closing quote. -/
theorem classify_quoted {quote : Char} {s : Text} (hquote : isQuote quote)
    (hs : Quoted.Inside quote s) (rest : Text) :
    classify quote (s ++ quote :: rest) = (.quoted, s.length + 1) := by
  have hslash : quote ≠ '\\' := by
    rintro rfl
    exact absurd hquote (by decide)
  rw [classify_quote hquote, Quoted.closing?_append hs hslash]

/-- The characters up to a mark, with the mark. -/
theorem take_mark (s rest : Text) (mark : Char) :
    (s ++ mark :: rest).take (s.length + 1) = s ++ [mark] := by
  have hlen : s.length + 1 = (s ++ [mark]).length := by simp
  rw [List.append_cons, hlen, List.take_left]

theorem drop_mark (s rest : Text) (mark : Char) :
    (s ++ mark :: rest).drop (s.length + 1) = rest := by
  have hlen : s.length + 1 = (s ++ [mark]).length := by simp
  rw [List.append_cons, hlen, List.drop_left]

end Lexeme

namespace Token

open Lexeme

/-! ## Texts and the tokens after them -/

/-- Whether the tokens of a text are `ts`, whatever stands before it. -/
def Reads (t : Text) (ts : List Token) : Prop :=
  ∀ named, ofContents named (contents t) = .ok ts

/-- Whether a text is empty or begins with a mark at which words end. -/
def Stops (t : Text) : Prop := ∀ c ∈ t.head?, c = ',' ∨ c = ';' ∨ c = ')'

/-- Whether a text is written for the tokens `us`: they come before those of what follows. -/
def Spells (t : Text) (us : List Token) : Prop :=
  ∀ rest ts, Stops rest → Reads rest ts → Reads (t ++ rest) (us ++ ts)

theorem reads_nil : Reads [] [] := fun _ => by rw [contents_nil]; rfl

theorem stops_nil : Stops [] := fun _ h => (nomatch h)

theorem Spells.reads {t : Text} {us : List Token} (h : Spells t us) : Reads t us := by
  have := h [] [] stops_nil reads_nil
  rwa [List.append_nil, List.append_nil] at this

theorem Spells.tokens? {t : Text} {us : List Token} (h : Spells t us) : tokens? t = .ok us :=
  h.reads false

/-- One more lexeme in front of a text, and its token. -/
theorem reads_cons {c : Char} {t : Text} {n : Nat} {kind : Kind} {token : Token}
    {ts : List Token} (hgap : ¬ Text.isGap c) (hkind : classify c t = (kind, n))
    (htoken : ∀ named, ofLexeme named ((contents (t.drop n)).head?.any (·.1 == .operator))
      ⟨kind, c :: t.take n, 0⟩ = .ok token)
    (h : Reads (t.drop n) ts) : Reads (c :: t) (token :: ts) := by
  intro named
  rw [contents_cons hgap, hkind, ofContents, htoken named]
  simp only [h (isNaming kind)]
  rfl

theorem reads_comma {t : Text} {ts : List Token} (h : Reads t ts) :
    Reads (',' :: t) (.comma :: ts) :=
  reads_cons (by decide) (classify_comma t) (fun _ => rfl) h

theorem reads_semicolon {t : Text} {ts : List Token} (h : Reads t ts) :
    Reads (';' :: t) (.separator :: ts) :=
  reads_cons (by decide) (classify_semicolon t) (fun _ => rfl) h

theorem reads_close {t : Text} {ts : List Token} (h : Reads t ts) :
    Reads (')' :: t) (.close :: ts) :=
  reads_cons (by decide) (classify_close t) (fun _ => rfl) h

/-- No operator stands at a mark. -/
theorem head_contents_of_stops {t : Text} (h : Stops t) :
    (contents t).head?.any (·.1 == .operator) = false := by
  cases t with
  | nil => rw [contents_nil]; rfl
  | cons c t =>
    rcases h c rfl with rfl | rfl | rfl
    · rw [contents_cons (by decide), classify_comma]; rfl
    · rw [contents_cons (by decide), classify_semicolon]; rfl
    · rw [contents_cons (by decide), classify_close]; rfl

theorem ends_of_stops {t : Text} (h : Stops t) :
    ∀ d ∈ t.head?, ¬ isWordChar d ∧ d ≠ '(' := by
  intro d hd
  rcases h d hd with rfl | rfl | rfl <;> decide

/-! ## Words and quoted texts -/

/-- A word is written for itself. -/
theorem spells_word {w : Text} (hw : IsWord w) : Spells w [.bare w] := by
  intro rest ts hstop h
  cases w with
  | nil => exact absurd rfl hw.1
  | cons c w =>
    show Reads (c :: (w ++ rest)) (.bare (c :: w) :: ts)
    refine reads_cons (not_isGap_of_isWordChar (hw.2 c List.mem_cons_self))
      (classify_append hw (ends_of_stops hstop)) (fun named => ?_) ?_
    · rw [List.drop_left, List.take_left, head_contents_of_stops hstop]
      rfl
    · rwa [List.drop_left]

/-- A text between quotes is written for the text without them and without its escapes. -/
theorem spells_quoted {quote : Char} {s t : Text} (hquote : isQuote quote)
    (hinside : Quoted.Inside quote s) (h : Quoted.Unescapes s t) :
    Spells (quote :: (s ++ [quote])) [.quoted t] := by
  intro rest ts _ hrest
  have hgap : ¬ Text.isGap quote := by
    simp only [isQuote, Bool.or_eq_true, beq_iff_eq] at hquote
    rcases hquote with rfl | rfl <;> decide
  have hshape : quote :: (s ++ [quote]) ++ rest = quote :: (s ++ quote :: rest) := by simp
  rw [hshape]
  refine reads_cons hgap (classify_quoted hquote hinside rest) (fun named => ?_) ?_
  · rw [take_mark]
    simp [ofLexeme, inside, h.unescape_eq]
  · rwa [drop_mark]

theorem spells_encode (t : Text) : Spells (Quoted.encode t) [.quoted t] := by
  refine spells_quoted rfl (Quoted.inside_escape t) ?_
  have h := Quoted.unescapes_unescape (Quoted.inside_escape t)
  rwa [Quoted.unescape_escape] at h

/-! ## Fronts of clauses -/

theorem isAlpha_mnemonic (op : Operator) : ∀ c ∈ op.mnemonic.toList, c.isAlpha :=
  List.all_eq_true.1 (by cases op <;> decide)

theorem toList_symbol (op : Operator) :
    op.symbol.toList = '=' :: (op.mnemonic.toList ++ ['=']) := by cases op <;> rfl

/-- The text of an operator after a field. -/
theorem contents_symbol (op : Operator) (rest : Text) :
    contents (op.symbol.toList ++ rest) = (.operator, op.symbol.toList) :: contents rest := by
  have hne : op.mnemonic.toList ≠ [] := by cases op <;> decide
  rw [toList_symbol, List.cons_append, ← List.append_cons, contents_cons (by decide),
    classify_operator hne (isAlpha_mnemonic op), take_mark, drop_mark]

/-- A word and an operator are written for a field and that operator. -/
theorem reads_criterion {path : Text} (hp : IsWord path) (op : Operator) {rest : Text}
    {ts : List Token} (h : Reads rest ts) :
    Reads (path ++ op.symbol.toList ++ rest) (.field path :: .operator op :: ts) := by
  have hop : ∀ operated, ofLexeme true operated ⟨.operator, op.symbol.toList, 0⟩ =
      .ok (.operator op) := by
    intro operated
    have hin : inside op.symbol.toList = op.mnemonic.toList := by cases op <;> rfl
    simp [ofLexeme, hin, Operator.ofMnemonic?_mnemonic]
  have hstart : ∀ d ∈ (op.symbol.toList ++ rest).head?, ¬ isWordChar d ∧ d ≠ '(' := by
    intro d hd
    obtain rfl : '=' = d := by cases op <;> exact Option.some.inj hd
    decide
  intro named
  cases path with
  | nil => exact absurd rfl hp.1
  | cons c w =>
    rw [List.append_assoc, List.cons_append,
      contents_cons (not_isGap_of_isWordChar (hp.2 c List.mem_cons_self)),
      classify_append hp hstart, List.take_left, List.drop_left, contents_symbol, ofContents]
    have hrest : ofContents (isNaming .word) ((.operator, op.symbol.toList) :: contents rest) =
        .ok (.operator op :: ts) := by
      simp only [ofContents, isNaming, hop, h false]
      rfl
    rw [hrest]
    rfl

/-- A name and an opening parenthesis are written for a directive. -/
theorem reads_directive {c : Char} {name : Text} (hc : isNameStart c)
    (hname : name.all isNamePart) (hlower : Text.lower (c :: name) = c :: name) {rest : Text}
    {ts : List Token} (h : Reads rest ts) :
    Reads (c :: name ++ '(' :: rest) (.directive (c :: name) :: ts) := by
  have hgap : ¬ Text.isGap c := by
    refine not_isGap_of_isWordChar (isWordChar_of_isNamePart ?_)
    simp only [isNameStart, isNamePart, Char.isAlphanum, Bool.or_eq_true] at hc ⊢
    exact hc.imp .inl id
  show Reads (c :: (name ++ '(' :: rest)) (.directive (c :: name) :: ts)
  refine reads_cons hgap (classify_directive hc (List.all_eq_true.1 hname) rest)
    (fun named => ?_) ?_
  · rw [take_mark]
    have : (c :: (name ++ ['('])).dropLast = c :: name := by
      rw [← List.cons_append, List.dropLast_concat]
    simp only [ofLexeme, this, hlower]
  · rwa [drop_mark]

/-! ## Several texts -/

variable {s t : Text} {us vs : List Token}

theorem Spells.comma (hs : Spells s us) (ht : Spells t vs) :
    Spells (s ++ [','] ++ t) (us ++ .comma :: vs) := by
  intro rest ts hstop h
  have hmark : Stops (',' :: (t ++ rest)) := by rintro _ ⟨⟩; exact .inl rfl
  have := hs _ _ hmark (reads_comma (ht rest ts hstop h))
  simpa using this

theorem Spells.semicolon (hs : Spells s us) (ht : Spells t vs) :
    Spells (s ++ [';'] ++ t) (us ++ .separator :: vs) := by
  intro rest ts hstop h
  have hmark : Stops (';' :: (t ++ rest)) := by rintro _ ⟨⟩; exact .inr (.inl rfl)
  have := hs _ _ hmark (reads_semicolon (ht rest ts hstop h))
  simpa using this

theorem Spells.close (hs : Spells s us) : Spells (s ++ [')']) (us ++ [.close]) := by
  intro rest ts hstop h
  have hmark : Stops (')' :: rest) := by rintro _ ⟨⟩; exact .inr (.inr rfl)
  have := hs _ _ hmark (reads_close h)
  simpa using this

/-- Texts with commas between them are written for tokens with commas between them. -/
theorem exists_separated {α β : Type} {Denotes : Token → β → Prop} {f : α → Text}
    {as : List α} {bs : List β}
    (h : List.Forall₂ (fun a b => ∃ t, Denotes t b ∧ Spells (f a) [t]) as bs) (hne : as ≠ []) :
    ∃ us, Separated Denotes us bs ∧ Spells (Text.joinWith [','] (as.map f)) us := by
  induction h with
  | nil => exact absurd rfl hne
  | @cons a b as bs hab hrest ih =>
    obtain ⟨t, hb, ha⟩ := hab
    cases as with
    | nil =>
      cases hrest
      exact ⟨[t], .one hb, ha⟩
    | cons a' as =>
      obtain ⟨us, hbs, hus⟩ := ih (List.cons_ne_nil _ _)
      exact ⟨t :: .comma :: us, .more hb hbs, ha.comma hus⟩

/-- Texts with semicolons between them are written for their tokens with separators between
    them. -/
theorem spells_joined {texts : List Text} {uss : List (List Token)}
    (h : List.Forall₂ Spells texts uss) :
    Spells (Text.joinWith [';'] texts) ([Token.separator].intercalate uss) := by
  induction h with
  | nil => exact fun rest ts _ h => h
  | @cons s us texts uss hs hrest ih =>
    cases hrest with
    | nil => rwa [List.intercalate_singleton]
    | cons ht hrest =>
      rw [List.intercalate_cons_cons, List.append_assoc]
      exact hs.semicolon ih

end Token

end ResourceQuery
