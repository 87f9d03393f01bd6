/-
  Resource queries — tokens without their positions.

  * `Lexeme.contents`: the kinds and texts of the lexemes of a text.
  * `Token.ofContents`, `Token.tokens?`: the tokens of contents and of a text.
  * `exists_tokenize_iff`: positions aside, reading the tokens of a text is `Token.tokens?`.
  * `isWord_of_bare`: the text of a word token has word characters only.
  * `fieldsOperated_tokens`, `operatorsNamed_tokens`: an operator stands right after every field,
    and a field or a quoted text right before every operator.
-/
import Mathlib.Data.List.TakeWhile
import Mathlib.Tactic.SplitIfs
import ResourceQuery.Token.Tokenizer

namespace ResourceQuery

namespace Lexeme

/-! ## Contents -/

/-- The kind and the text of a lexeme. -/
def content (l : Lexeme) : Kind × Text := (l.kind, l.text)

/-- The kinds and texts of the lexemes of a text. -/
def contents (t : Text) : List (Kind × Text) := (scan 0 t).map content

theorem scan_nil (start : Nat) : scan start [] = [] := by rw [scan]

theorem scan_gap {c : Char} (h : Text.isGap c) (start : Nat) (t : Text) :
    scan start (c :: t) = scan (start + c.utf8Size) t := by
  rw [scan, if_pos h]

theorem scan_cons {c : Char} (h : ¬ Text.isGap c) (start : Nat) (t : Text) :
    scan start (c :: t) =
      ⟨(classify c t).1, c :: t.take (classify c t).2, start⟩ ::
        scan (start + Text.byteSize (c :: t.take (classify c t).2)) (t.drop (classify c t).2) := by
  rw [scan, if_neg h]

/-- Induction along the lexemes of a text. -/
theorem scan_induction {P : Text → Prop} (nil : P [])
    (gap : ∀ c t, Text.isGap c → P t → P (c :: t))
    (lexeme : ∀ c t, ¬ Text.isGap c → P (t.drop (classify c t).2) → P (c :: t)) : ∀ t, P t
  | [] => nil
  | c :: t =>
    if h : Text.isGap c then gap c t h (scan_induction nil gap lexeme t)
    else lexeme c t h (scan_induction nil gap lexeme (t.drop (classify c t).2))
termination_by t => t.length
decreasing_by all_goals simp only [List.length_cons, List.length_drop]; omega

/-- Where a text starts plays no part in the contents of its lexemes. -/
theorem map_content_scan (a b : Nat) (t : Text) :
    (scan a t).map content = (scan b t).map content := by
  induction t using scan_induction generalizing a b with
  | nil => simp only [scan_nil]
  | gap c t h ih => rw [scan_gap h, scan_gap h, ih]
  | lexeme c t h ih => rw [scan_cons h, scan_cons h, List.map_cons, List.map_cons, ih]; rfl

@[simp] theorem contents_nil : contents [] = [] := by simp [contents, scan_nil]

theorem contents_gap {c : Char} (h : Text.isGap c) (t : Text) :
    contents (c :: t) = contents t := by
  rw [contents, scan_gap h, map_content_scan, contents]

theorem contents_cons {c : Char} (h : ¬ Text.isGap c) (t : Text) :
    contents (c :: t) =
      ((classify c t).1, c :: t.take (classify c t).2) ::
        contents (t.drop (classify c t).2) := by
  rw [contents, scan_cons h, List.map_cons, map_content_scan _ 0]
  rfl

/-! ## Words -/

/-- Whether a text is a word: not empty, and of word characters only. -/
def IsWord (w : Text) : Prop := w ≠ [] ∧ ∀ c ∈ w, isWordChar c

instance (w : Text) : Decidable (IsWord w) :=
  decidable_of_iff (w ≠ [] ∧ w.all isWordChar) (and_congr_right fun _ => List.all_eq_true)

/-- A lexeme that is a word starts with a word character and goes on as long as there are
    word characters. -/
theorem classify_word {c : Char} {t : Text} (h : (classify c t).1 = .word) :
    isWordChar c ∧ (classify c t).2 = (t.takeWhile isWordChar).length := by
  cases hd : directiveTail? c t with
  | some n => simp [classify, hd] at h
  | none =>
  cases ho : operatorTail? c t with
  | some n => simp [classify, hd, ho] at h
  | none =>
    simp only [classify, hd, ho] at h ⊢
    split_ifs at h ⊢ with h₁ h₂ h₃ h₄ h₅
    · cases hq : Quoted.closing? c t <;> simp [hq] at h
    · exact ⟨h₅, rfl⟩

theorem isWord_of_mem_contents {w t : Text} (hw : (Kind.word, w) ∈ contents t) : IsWord w := by
  induction t using scan_induction with
  | nil => simp at hw
  | gap c t h ih => exact ih (contents_gap h t ▸ hw)
  | lexeme c t h ih =>
    rw [contents_cons h, List.mem_cons] at hw
    rcases hw with hw | hw
    · obtain ⟨hk, rfl⟩ := Prod.mk.inj hw
      obtain ⟨hc, hn⟩ := classify_word hk.symm
      rw [hn]
      refine ⟨by simp, ?_⟩
      intro d hd
      rcases List.mem_cons.1 hd with rfl | hd
      · exact hc
      · rw [← List.prefix_iff_eq_take.1 (List.takeWhile_prefix isWordChar)] at hd
        exact List.mem_takeWhile_imp hd
    · exact ih hw

/-- The characters of a lexeme are characters of the text. -/
theorem subset_of_mem_contents {kind : Kind} {w t : Text} (hw : (kind, w) ∈ contents t) :
    w ⊆ t := by
  induction t using scan_induction with
  | nil => simp at hw
  | gap c t h ih => exact List.Subset.trans (ih (contents_gap h t ▸ hw)) (List.subset_cons_self c t)
  | lexeme c t h ih =>
    rw [contents_cons h, List.mem_cons] at hw
    rcases hw with hw | hw
    · obtain ⟨-, rfl⟩ := Prod.mk.inj hw
      exact List.cons_subset_cons c (List.take_subset _ t)
    · refine List.Subset.trans (ih hw) ?_
      exact List.Subset.trans (List.drop_subset _ t) (List.subset_cons_self c t)

end Lexeme

namespace Token

/-! ## Tokens of contents -/

/-- The tokens of contents, where `named` says whether a word or a quoted text stands right
    before them; or what is wrong with the first that is no token. -/
def ofContents : Bool → List (Lexeme.Kind × Text) → Except ParseError.Cause (List Token)
  | _, [] => .ok []
  | named, (kind, text) :: cs =>
    match ofLexeme named (cs.head?.any (·.1 == .operator)) ⟨kind, text, 0⟩ with
    | .error cause => .error cause
    | .ok token => (ofContents (isNaming kind) cs).map (token :: ·)

/-- The tokens of a text without their positions. -/
def tokens? (text : Text) : Except ParseError.Cause (List Token) :=
  ofContents false (Lexeme.contents text)

/-- The tokens among what has been located. -/
def ofLocated (ts : List Located) : List Token := ts.map (·.token)

@[simp] theorem ofLocated_nil : ofLocated [] = [] := rfl

@[simp] theorem ofLocated_cons (t : Located) (ts : List Located) :
    ofLocated (t :: ts) = t.token :: ofLocated ts := rfl

@[simp] theorem ofLocated_append (ts us : List Located) :
    ofLocated (ts ++ us) = ofLocated ts ++ ofLocated us := List.map_append

@[simp] theorem ofLocated_eq_nil {ts : List Located} : ofLocated ts = [] ↔ ts = [] :=
  List.map_eq_nil_iff

theorem ofLocated_eq_cons {ts : List Located} {t : Token} {us : List Token} :
    ofLocated ts = t :: us ↔
      ∃ start stop rest, ts = ⟨t, start, stop⟩ :: rest ∧ ofLocated rest = us := by
  constructor
  · intro h
    obtain ⟨⟨_, start, stop⟩, rest, rfl, rfl, hrest⟩ := List.map_eq_cons_iff.1 h
    exact ⟨start, stop, rest, rfl, hrest⟩
  · rintro ⟨start, stop, rest, rfl, rfl⟩
    rfl

/-- Neither the position of a lexeme nor the text around it decides its token. -/
theorem ofLexemes_eq (text : Text) (ls : List Lexeme) (named : Bool) :
    ((ofLexemes text named ls).map ofLocated).mapError (·.cause) =
      ofContents named (ls.map Lexeme.content) := by
  induction ls generalizing named with
  | nil => rfl
  | cons l ls ih =>
    have hnext : (ls.map Lexeme.content).head?.any (·.1 == .operator) =
        ls.head?.any (·.kind == .operator) := by cases ls <;> rfl
    have hpos (b : Bool) : ofLexeme named b ⟨l.kind, l.text, 0⟩ = ofLexeme named b l := rfl
    rw [List.map_cons, ofLexemes, Lexeme.content, ofContents, hnext, hpos]
    cases ofLexeme named (ls.head?.any (·.kind == .operator)) l with
    | error cause => rfl
    | ok token =>
      simp only [← ih]
      cases ofLexemes text (isNaming l.kind) ls <;> rfl

theorem exists_tokenize_iff {text : Text} {ts : List Token} :
    (∃ located, tokenize text = .ok located ∧ ofLocated located = ts) ↔
      tokens? text = .ok ts := by
  rw [tokens?, Lexeme.contents, ← ofLexemes_eq text, ← tokenize]
  cases tokenize text with
  | error e => exact ⟨fun ⟨_, h, _⟩ => (nomatch h), fun h => (nomatch h)⟩
  | ok located =>
    refine ⟨?_, fun h => ⟨located, rfl, by injection h⟩⟩
    rintro ⟨_, ⟨⟩, rfl⟩
    rfl

theorem tokens?_of_tokenize {text : Text} {located : List Located}
    (h : tokenize text = .ok located) : tokens? text = .ok (ofLocated located) :=
  exists_tokenize_iff.1 ⟨located, h, rfl⟩

theorem ofContents_cons {named : Bool} {kind : Lexeme.Kind} {text : Text}
    {cs : List (Lexeme.Kind × Text)} {ts : List Token}
    (h : ofContents named ((kind, text) :: cs) = .ok ts) :
    ∃ t us, ofLexeme named (cs.head?.any (·.1 == .operator)) ⟨kind, text, 0⟩ = .ok t ∧
      ofContents (isNaming kind) cs = .ok us ∧ ts = t :: us := by
  rw [ofContents] at h
  split at h
  · cases h
  · rename_i t ht
    cases hu : ofContents (isNaming kind) cs with
    | error cause => rw [hu] at h; cases h
    | ok us => rw [hu] at h; exact ⟨t, us, ht, rfl, by injection h with h; exact h.symm⟩

/-- A known operator is the only token of its lexeme. -/
theorem ofLexeme_operator {named operated : Bool} {l : Lexeme} {t : Token}
    (hk : l.kind = .operator) (h : ofLexeme named operated l = .ok t) : ∃ op, t = .operator op := by
  simp only [ofLexeme, hk] at h
  cases ho : Operator.ofMnemonic? (inside l.text) with
  | none => simp [ho] at h
  | some op =>
    cases named with
    | false => simp [ho] at h
    | true => exact ⟨op, by simpa [ho] using h.symm⟩

/-- Only a word gives a bare token or a field: a field when an operator comes next. -/
theorem ofLexeme_word {named operated : Bool} {l : Lexeme} {w : Text}
    (h : ofLexeme named operated l = .ok (.bare w) ∨ ofLexeme named operated l = .ok (.field w)) :
    l.kind = .word ∧ l.text = w ∧
      (ofLexeme named operated l = .ok (.field w) → operated = true) := by
  cases hk : l.kind with
  | word => cases operated <;> simp_all [ofLexeme]
  | operator =>
    rcases h with h | h <;> obtain ⟨op, ⟨⟩⟩ := ofLexeme_operator hk h
  | _ => simp [ofLexeme, hk] at h

/-! ## Words -/

theorem mem_contents_of_word {w : Text} {cs : List (Lexeme.Kind × Text)} {ts : List Token}
    {named : Bool} (h : ofContents named cs = .ok ts) (hw : .bare w ∈ ts ∨ .field w ∈ ts) :
    (Lexeme.Kind.word, w) ∈ cs := by
  induction cs generalizing named ts with
  | nil =>
    cases h
    rcases hw with hw | hw <;> cases hw
  | cons c cs ih =>
    obtain ⟨kind, text⟩ := c
    obtain ⟨t, us, ht, hus, rfl⟩ := ofContents_cons h
    rw [List.mem_cons, List.mem_cons] at hw
    rcases hw with (rfl | hw) | (rfl | hw)
    · obtain ⟨rfl, rfl, -⟩ := ofLexeme_word (.inl ht)
      exact List.mem_cons_self
    · exact List.mem_cons_of_mem _ (ih hus (.inl hw))
    · obtain ⟨rfl, rfl, -⟩ := ofLexeme_word (.inr ht)
      exact List.mem_cons_self
    · exact List.mem_cons_of_mem _ (ih hus (.inr hw))

/-- A bare token is a word. -/
theorem isWord_of_bare {text w : Text} {ts : List Token} (h : tokens? text = .ok ts)
    (hw : .bare w ∈ ts) : Lexeme.IsWord w :=
  Lexeme.isWord_of_mem_contents (mem_contents_of_word h (.inl hw))

/-! ## Fields -/

/-- Whether an operator stands right after every field. -/
def FieldsOperated (ts : List Token) : Prop :=
  ∀ before path after, ts = before ++ .field path :: after → ∃ op rest, after = .operator op :: rest

theorem FieldsOperated.tail {t : Token} {ts : List Token} (h : FieldsOperated (t :: ts)) :
    FieldsOperated ts := fun before path after heq => h (t :: before) path after (by rw [heq]; rfl)

theorem fieldsOperated_ofContents {named : Bool} {cs : List (Lexeme.Kind × Text)}
    {ts : List Token} (h : ofContents named cs = .ok ts) : FieldsOperated ts := by
  induction cs generalizing named ts with
  | nil => cases h; rintro (_ | ⟨_, _⟩) path after h <;> cases h
  | cons c cs ih =>
    obtain ⟨kind, text⟩ := c
    obtain ⟨t, us, ht, hus, rfl⟩ := ofContents_cons h
    rintro (_ | ⟨_, before⟩) path after heq
    · -- a word is a field only when the next content is an operator, whose token comes next
      obtain ⟨rfl, rfl⟩ := List.cons.inj heq
      have hnext := (ofLexeme_word (.inr ht)).2.2 ht
      obtain ⟨_ | ⟨⟨kind', text'⟩, cs⟩⟩ := cs
      · cases hnext
      · obtain ⟨t', us', ht', -, rfl⟩ := ofContents_cons hus
        obtain ⟨op, rfl⟩ := ofLexeme_operator (by simpa using hnext) ht'
        exact ⟨op, us', rfl⟩
    · exact ih hus before path after (List.cons.inj heq).2

theorem fieldsOperated_tokens {text : Text} {ts : List Token} (h : tokens? text = .ok ts) :
    FieldsOperated ts := fieldsOperated_ofContents h

/-! ## Operators -/

/-- Whether every operator stands right after a field or a quoted text. -/
structure OperatorsNamed (ts : List Token) : Prop where
  first : ∀ op after, ts ≠ .operator op :: after
  behind : ∀ before t op after, ts = before ++ t :: .operator op :: after →
    (∃ w, t = .field w) ∨ ∃ w, t = .quoted w

/-- An operator is the token of an operator that may stand where it does. -/
theorem ofLexeme_eq_operator {named operated : Bool} {l : Lexeme} {op : Operator}
    (h : ofLexeme named operated l = .ok (.operator op)) :
    l.kind = .operator ∧ named = true := by
  cases hk : l.kind with
  | operator =>
    simp only [ofLexeme, hk] at h
    cases ho : Operator.ofMnemonic? (inside l.text) with
    | none => simp [ho] at h
    | some op' =>
      cases named with
      | false => simp [ho] at h
      | true => exact ⟨rfl, rfl⟩
  | word => cases operated <;> simp [ofLexeme, hk] at h
  | _ => simp [ofLexeme, hk] at h

/-- With an operator after it, what an operator may stand behind is a field or a quoted text. -/
theorem ofLexeme_of_isNaming {named : Bool} {l : Lexeme} {t : Token} (hk : isNaming l.kind = true)
    (h : ofLexeme named true l = .ok t) : (∃ w, t = .field w) ∨ ∃ w, t = .quoted w := by
  cases hkind : l.kind with
  | word =>
    rw [ofLexeme, hkind] at h
    exact .inl ⟨_, (Except.ok.inj h).symm⟩
  | quoted =>
    rw [ofLexeme, hkind] at h
    exact .inr ⟨_, (Except.ok.inj h).symm⟩
  | _ =>
    rw [hkind] at hk
    cases hk

theorem operatorsNamed_ofContents {named : Bool} {cs : List (Lexeme.Kind × Text)}
    {ts : List Token} (h : ofContents named cs = .ok ts) :
    (∀ op after, ts = .operator op :: after → named = true) ∧
      ∀ before t op after, ts = before ++ t :: .operator op :: after →
        (∃ w, t = .field w) ∨ ∃ w, t = .quoted w := by
  induction cs generalizing named ts with
  | nil =>
    cases h
    exact ⟨fun _ _ h => (nomatch h), fun before _ _ _ h => by simp at h⟩
  | cons c cs ih =>
    obtain ⟨kind, text⟩ := c
    obtain ⟨t, us, ht, hus, rfl⟩ := ofContents_cons h
    obtain ⟨hfirst, hbehind⟩ := ih hus
    constructor
    · rintro op after ⟨⟩
      exact (ofLexeme_eq_operator ht).2
    · rintro (_ | ⟨_, before⟩) t' op after heq
      · -- the content after this one is the operator
        obtain ⟨rfl, rfl⟩ := List.cons.inj heq
        cases cs with
        | nil => cases hus
        | cons c' cs =>
          obtain ⟨kind', text'⟩ := c'
          obtain ⟨t', us', ht', -, ⟨⟩⟩ := ofContents_cons hus
          obtain rfl : kind' = .operator := (ofLexeme_eq_operator ht').1
          exact ofLexeme_of_isNaming (hfirst op after rfl) ht
      · exact hbehind before t' op after (List.cons.inj heq).2

theorem operatorsNamed_tokens {text : Text} {ts : List Token} (h : tokens? text = .ok ts) :
    OperatorsNamed ts where
  first op after hts := by
    have hnamed := (operatorsNamed_ofContents h).1 op after hts
    cases hnamed
  behind := (operatorsNamed_ofContents h).2

end Token

end ResourceQuery
