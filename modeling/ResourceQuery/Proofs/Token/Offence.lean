/-
  Resource queries — the first offence in a text.

  * `Token.Offence`: what is wrong with the item that starts at a place of a text, by the text from
    there on and the token before it.
  * `Token.offence_iff`: these are the lexemes that become no token.
  * `Token.exists_ofLexemes_iff`: lexemes become tokens when each of them does, whatever text
    they are from.
  * `Token.tokenize_eq_error`: a text without tokens is reported at its first offence, and has
    tokens up to there.
-/
import ResourceQuery.Proofs.Token.Front

namespace ResourceQuery

namespace Lexeme

/-! ## Offending lexemes -/

/-- A quote without a partner behind it takes the rest of the text. -/
theorem classify_unterminated {quote : Char} {s : Text} (hquote : isQuote quote)
    (h : ∀ inner rest, s = inner ++ quote :: rest → ¬ Quoted.Inside quote inner) :
    classify quote s = (.unterminated, s.length) := by
  rw [classify_quote hquote]
  cases hclosing : Quoted.closing? quote s with
  | none => rfl
  | some n =>
    obtain ⟨inner, rest, hs, hinner, -⟩ := Quoted.exists_inside hclosing
    exact absurd hinner (h inner rest hs)

/-- A quote that takes the rest of the text has no partner there. -/
theorem not_inside_of_classify {quote : Char} {s : Text} (hquote : isQuote quote)
    (h : (classify quote s).1 = .unterminated) (inner rest : Text)
    (hs : s = inner ++ quote :: rest) : ¬ Quoted.Inside quote inner := by
  intro hinner
  rw [hs, classify_quoted hquote hinner] at h
  cases h

end Lexeme

namespace Token

open Lexeme Outcome

/-! ## What is wrong at a place -/

/-- Whether an operator may stand behind the token: a word or a quoted text. -/
def TakesOperator : Token → Prop
  | bare _ | quoted _ => True
  | _ => False

/-- What is wrong with the item that starts a text, where `before` are the tokens in front of it:
    the item and the cause. -/
inductive Offence (before : List Token) : Text → Text → ParseError.Cause → Prop
  /-- A quote with no partner behind it: before each of the same quotes is a text that could not
      stand between the two. -/
  | unterminated {quote : Char} {s : Text} : isQuote quote →
      (∀ inner rest, s = inner ++ quote :: rest → ¬ Quoted.Inside quote inner) →
      Offence before (quote :: s) (quote :: s) .unterminatedQuote
  /-- Letters between equals signs that are no mnemonic. -/
  | unknown {letters rest : Text} : letters ≠ [] → (∀ c ∈ letters, c.isAlpha) →
      (∀ op : Operator, op.mnemonic.toList ≠ Text.lower letters) →
      Offence before ('=' :: (letters ++ '=' :: rest)) ('=' :: (letters ++ ['=']))
        (.unknownOperator letters)
  /-- An operator that stands behind neither a word nor a quoted text. -/
  | unnamed {letters rest : Text} {op : Operator} : letters ≠ [] → (∀ c ∈ letters, c.isAlpha) →
      op.mnemonic.toList = Text.lower letters → (∀ t ∈ before.getLast?, ¬ t.TakesOperator) →
      Offence before ('=' :: (letters ++ '=' :: rest)) ('=' :: (letters ++ ['=']))
        (.noFieldBefore letters)
  /-- An equals sign that begins no operator. -/
  | equals {s : Text} :
      (∀ letters rest, letters ≠ [] → (∀ c ∈ letters, c.isAlpha) → s ≠ letters ++ '=' :: rest) →
      Offence before ('=' :: s) ['='] (.unexpectedCharacter '=')
  /-- An opening parenthesis that ends no name. -/
  | paren {s : Text} : Offence before ('(' :: s) ['('] (.unexpectedCharacter '(')

theorem exists_ofMnemonic? {t : Text} {op : Operator} (h : op.mnemonic.toList = Text.lower t) :
    ∃ op', Operator.ofMnemonic? t = some op' := by
  refine Option.isSome_iff_exists.1 (List.find?_isSome.2 ⟨op, Operator.mem_all op, ?_⟩)
  rw [h, beq_self_eq_true]

theorem ofMnemonic?_eq_none {t : Text} (h : ∀ op : Operator, op.mnemonic.toList ≠ Text.lower t) :
    Operator.ofMnemonic? t = none := by
  refine List.find?_eq_none.2 fun op _ => ?_
  rw [beq_iff_eq]
  exact h op

section
variable {before : List Token} {named operated : Bool} {c : Char} {t item : Text}
  {cause : ParseError.Cause}

/-- What is wrong at a place makes a lexeme that is no token. -/
theorem Offence.ofLexeme_eq_error (hnamed : named = true → ∃ t ∈ before.getLast?, t.TakesOperator)
    (h : Offence before (c :: t) item cause) :
    item = c :: t.take (classify c t).2 ∧
      ∀ start, ofLexeme named operated ⟨(classify c t).1, item, start⟩ = .error cause := by
  generalize hs : c :: t = s at h
  cases h with
  | unterminated hquote hopen =>
    obtain ⟨rfl, rfl⟩ := List.cons.inj hs
    rw [classify_unterminated hquote hopen, List.take_length]
    exact ⟨rfl, fun _ => rfl⟩
  | unknown hne hletters hop =>
    obtain ⟨rfl, rfl⟩ := List.cons.inj hs
    rw [classify_operator hne hletters, take_mark]
    refine ⟨rfl, fun start => ?_⟩
    simp only [ofLexeme, inside_append, ofMnemonic?_eq_none hop]
  | unnamed hne hletters hop hlast =>
    obtain ⟨rfl, rfl⟩ := List.cons.inj hs
    rw [classify_operator hne hletters, take_mark]
    obtain ⟨op', hop'⟩ := exists_ofMnemonic? hop
    have hfalse : named = false := by
      rw [← Bool.not_eq_true]
      intro h
      obtain ⟨p, hp, hname⟩ := hnamed h
      exact hlast p hp hname
    refine ⟨rfl, fun start => ?_⟩
    simp only [ofLexeme, inside_append, hop', hfalse, Bool.false_eq_true, if_false]
  | equals hnone =>
    obtain ⟨rfl, rfl⟩ := List.cons.inj hs
    rw [classify_equals (operatorTail?_eq_none_iff.2 hnone)]
    exact ⟨rfl, fun _ => rfl⟩
  | paren =>
    obtain ⟨rfl, rfl⟩ := List.cons.inj hs
    exact ⟨rfl, fun _ => rfl⟩

/-- A lexeme that is no token makes something wrong at its place. -/
theorem offence_of_classify (hgap : ¬ Text.isGap c)
    (hnamed : named = false → ∀ t ∈ before.getLast?, ¬ t.TakesOperator) {start : Nat}
    (h : ofLexeme named operated ⟨(classify c t).1, c :: t.take (classify c t).2, start⟩ =
      .error cause) : Offence before (c :: t) (c :: t.take (classify c t).2) cause := by
  have hfits := fits_classify c t
  have hstray := of_classify_stray (t := t) hgap
  have hopen (hquote : isQuote c) := @not_inside_of_classify c t hquote
  have hsplit := List.take_append_drop (classify c t).2 t
  generalize (classify c t).1 = kind at hfits hstray hopen h
  generalize t.take (classify c t).2 = w at hfits h hsplit ⊢
  generalize t.drop (classify c t).2 = rest at hfits hsplit
  cases hfits with
  | @operator letters _ hne hletters =>
    rw [← hsplit, List.append_assoc, List.singleton_append]
    simp only [ofLexeme, inside_append] at h
    cases hop : Operator.ofMnemonic? letters with
    | none =>
      simp only [hop, Except.error.injEq] at h
      subst h
      exact .unknown hne hletters (ne_of_ofMnemonic? hop)
    | some op =>
      cases named with
      | false =>
        simp only [hop, Bool.false_eq_true, if_false, Except.error.injEq] at h
        subst h
        exact .unnamed hne hletters (lower_of_ofMnemonic? hop).symm (hnamed rfl)
      | true => simp [hop] at h
  | unterminated hquote =>
    rw [List.append_nil] at hsplit
    subst hsplit
    cases h
    exact .unterminated hquote (hopen hquote rfl)
  | stray =>
    cases h
    rcases hstray rfl with rfl | ⟨rfl, hnone⟩
    · exact .paren
    · exact .equals (operatorTail?_eq_none_iff.1 hnone)
  | _ => cases h

/-- What is wrong at a place is the lexeme there, when that becomes no token. -/
theorem offence_iff (hgap : ¬ Text.isGap c)
    (hnamed : named = true ↔ ∃ t ∈ before.getLast?, t.TakesOperator) (start : Nat) :
    Offence before (c :: t) item cause ↔ item = c :: t.take (classify c t).2 ∧
      ofLexeme named operated ⟨(classify c t).1, item, start⟩ = .error cause := by
  constructor
  · intro h
    obtain ⟨hitem, herror⟩ := h.ofLexeme_eq_error hnamed.1
    exact ⟨hitem, herror start⟩
  · rintro ⟨rfl, h⟩
    refine offence_of_classify hgap (fun hfalse p hp hname => ?_) h
    rw [hnamed.2 ⟨p, hp, hname⟩] at hfalse
    cases hfalse

end

/-! ## The first offence -/

/-- Lexemes become tokens when each of them does, whatever text they are from. -/
theorem exists_ofLexemes_iff {text : Text} {named : Bool} {ls : List Lexeme} :
    (∃ ts, ofLexemes text named ls = .ok ts) ↔ ∀ before l after, ls = before ++ l :: after →
      ∃ t, ofLexeme (before.getLast?.elim named fun p => isNaming p.kind) false l = .ok t := by
  induction ls generalizing named with
  | nil => exact ⟨fun _ before l after h => by simp at h, fun _ => ⟨[], rfl⟩⟩
  | cons l ls ih =>
    rw [exists_ofLexemes_cons, ih]
    constructor
    · rintro ⟨hl, hls⟩ before m after h
      cases before with
      | nil =>
        obtain ⟨rfl, -⟩ := List.cons.inj h
        exact hl
      | cons b before =>
        obtain ⟨rfl, rfl⟩ := List.cons.inj h
        rw [elim_getLast?_cons]
        exact hls before m after rfl
    · intro h
      refine ⟨h [] l ls rfl, fun before m after hls => ?_⟩
      have := h (l :: before) m after (by rw [hls]; rfl)
      rwa [elim_getLast?_cons] at this

theorem isNaming_iff_takesOperator {named : Bool} {l : Lexeme} {t : Token}
    (h : ofLexeme named false l = .ok t) : isNaming l.kind = true ↔ t.TakesOperator := by
  cases hk : l.kind with
  | operator =>
    obtain ⟨op, rfl⟩ := ofLexeme_operator hk h
    simp [isNaming, TakesOperator]
  | unterminated | stray =>
    rw [ofLexeme, hk] at h
    cases h
  | _ =>
    rw [ofLexeme, hk] at h
    cases h
    simp [isNaming, TakesOperator]

/-- An operator may stand behind lexemes when it may stand behind their tokens. -/
theorem getLast?_isNaming_iff {text : Text} {named : Bool} {ls : List Lexeme} {ts : List Located}
    (h : ofLexemes text named ls = .ok ts) :
    (ls.getLast?.elim named fun p => isNaming p.kind) = true ↔
      (ofLocated ts).getLast?.elim (named = true) TakesOperator := by
  induction ls generalizing named ts with
  | nil =>
    cases h
    exact Iff.rfl
  | cons l ls ih =>
    rw [ofLexemes] at h
    split at h
    · cases h
    rename_i t ht
    obtain ⟨us, hus, rfl⟩ := map_eq_ok.1 h
    rw [ofLocated_cons, elim_getLast?_cons, elim_getLast?_cons, ih hus]
    cases us with
    | cons u us => rw [ofLocated_cons, elim_getLast?_cons, elim_getLast?_cons]
    | nil =>
      -- nothing stands behind the last lexeme, so that a word is no field
      have hls : ls = [] := List.length_eq_zero_iff.1 (forall₂_ofLexemes hus).length_eq
      subst hls
      exact isNaming_iff_takesOperator ht

/-- What a front of the lexemes of a text leaves: the text up to the next lexeme has tokens, and
    what is wrong at that lexeme is that it becomes no token. -/
theorem exists_front {text : Text} {before after : List Lexeme} {l : Lexeme}
    (hls : scan 0 text = before ++ l :: after)
    (hbefore : ∃ us, ofLexemes text false before = .ok us) :
    ∃ front rest ts, text = front ++ rest ∧ l.start = Text.byteSize front ∧
      scan 0 front = before ∧ tokenize front = .ok ts ∧
      ∀ item cause, Offence (ofLocated ts) rest item cause ↔ item = l.text ∧
        ofLexeme (before.getLast?.elim false fun p => isNaming p.kind) false l = .error cause := by
  obtain ⟨front, c, t, rfl, hgap, hfront, rfl⟩ := scan_front hls
  obtain ⟨ts, hts⟩ := exists_ofLexemes_iff.2 (exists_ofLexemes_iff.1 hbefore)
  refine ⟨front, c :: t, ts, rfl, Nat.zero_add _, hfront, by rw [tokenize, hfront]; exact hts,
    fun item cause => ?_⟩
  have hnamed : (before.getLast?.elim false fun p => isNaming p.kind) = true ↔
      ∃ t ∈ (ofLocated ts).getLast?, t.TakesOperator := by
    rw [getLast?_isNaming_iff hts]
    cases (ofLocated ts).getLast? <;> simp
  rw [offence_iff hgap hnamed (0 + Text.byteSize front)]
  refine and_congr_right fun hitem => ?_
  rw [hitem]

/-- **The leftmost offence is reported.**  A text without tokens is cut in two at the position
    that is reported: the front has tokens, and at the front of the rest stands an item with
    exactly one thing wrong with it, which is the one that is reported.  Nothing is wrong with the
    items in front of it. -/
theorem tokenize_eq_error {text : Text} {error : ParseError} (h : tokenize text = .error error) :
    ∃ front rest ts l after, text = front ++ rest ∧ tokenize front = .ok ts ∧
      scan 0 text = scan 0 front ++ l :: after ∧ l.start = Text.byteSize front ∧
      (∀ item cause, Offence (ofLocated ts) rest item cause ↔
        item = l.text ∧ cause = error.cause) ∧
      error = { cause := error.cause, text := some l.text, position := some (Text.byteSize front),
                line := some (lineColumn front).1, column := some (lineColumn front).2 } ∧
      ∀ m ∈ scan 0 front, ∃ front' rest' us, text = front' ++ rest' ∧
        Text.byteSize front' = m.start ∧ tokenize front' = .ok us ∧
        ∀ item cause, ¬ Offence (ofLocated us) rest' item cause := by
  obtain ⟨before, l, after, operated, hls, hbefore, hl, he⟩ := ofLexemes_eq_error h
  obtain ⟨front, rest, ts, htext, hstart, hfront, hts, hoffence⟩ := exists_front hls hbefore
  refine ⟨front, rest, ts, l, after, htext, hts, by rw [hfront, hls], hstart, ?_, ?_, ?_⟩
  · intro item cause
    rw [hoffence]
    refine and_congr_right fun _ => ?_
    rw [(ofLexeme_eq_error_iff operated false).1 hl, Except.error.injEq, eq_comm]
  · rw [he, lexicalError, htext, hstart, Text.takeBytes_append]
  · intro m hm
    obtain ⟨before', after', rfl⟩ := List.mem_iff_append.1 (hfront ▸ hm)
    have htokens := exists_ofLexemes_iff.1 hbefore
    have hbefore' : ∃ us, ofLexemes text false before' = .ok us := by
      refine exists_ofLexemes_iff.2 fun b x a hba => htokens b x (a ++ m :: after') ?_
      rw [hba, List.append_assoc, List.cons_append]
    rw [List.append_assoc, List.cons_append] at hls
    obtain ⟨front', rest', us, htext', hstart', -, hus, hoffence'⟩ := exists_front hls hbefore'
    obtain ⟨t, ht⟩ := htokens before' m after' rfl
    refine ⟨front', rest', us, htext', hstart'.symm, hus, fun item cause hitem => ?_⟩
    have hm := ((hoffence' item cause).1 hitem).2
    rw [ht] at hm
    cases hm

/-- An operator with a separator in front of it; the offences behind it are not reported. -/
theorem tokenize_eq_error_unnamed :
    ∃ front rest ts, "é=eq='x';=gt=3=of='".toList = front ++ rest ∧
      tokenize front = .ok ts ∧ Text.byteSize front = 10 ∧
      Offence (ofLocated ts) rest "=gt=".toList (.noFieldBefore "gt".toList) := by
  have h : tokenize "é=eq='x';=gt=3=of='".toList =
      .error { cause := .noFieldBefore "gt".toList, text := some "=gt=".toList,
               position := some 10, line := some 1, column := some 10 } := by decide +kernel
  obtain ⟨front, rest, ts, l, after, htext, hts, -, -, hoffence, he, -⟩ := tokenize_eq_error h
  obtain ⟨-, -, hl, hposition, -⟩ := ParseError.mk.inj he
  exact ⟨front, rest, ts, htext, hts, (Option.some.inj hposition).symm,
    (hoffence _ _).2 ⟨Option.some.inj hl, rfl⟩⟩

end Token

end ResourceQuery
