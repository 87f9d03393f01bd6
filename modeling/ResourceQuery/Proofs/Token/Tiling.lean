/-
  Resource queries — nothing of a text is lost between its tokens.

  * `Quoted.exists_inside`: a quoted text ends where its inside does.
  * `Lexeme.fits_classify`, `Lexeme.order_classify_le`: what is read at the front of a text has
    the form of its kind, and no kind that is tried before fits.
  * `Lexeme.tiles_scan`: the lexemes take up every text to its end.
  * `Token.readFrom_ofLexeme`, `Token.offends_ofLexeme`: a lexeme is a token that is written as
    its text, or one of four offences.
  * `Token.tokenize_covers`: the tokens of a text cover it, or the error is the
    offence of one of its lexemes.
-/
import ResourceQuery.Proofs.Outcome
import ResourceQuery.Proofs.Text.Size
import ResourceQuery.Proofs.Token.Spelling
import ResourceQuery.Token.Grammar

namespace ResourceQuery

/-! ## Quotes -/

namespace Quoted

variable {quote : Char}

theorem exists_inside {t : Text} {n : Nat} (h : closing? quote t = some n) :
    ∃ s rest, t = s ++ quote :: rest ∧ Inside quote s ∧ n = s.length + 1 := by
  fun_induction closing? quote t generalizing n with
  | case1 => cases h
  | case2 => cases h
  | case3 c t ih =>
    obtain ⟨m, hm, rfl⟩ := Option.map_eq_some_iff.1 h
    obtain ⟨s, rest, rfl, hs, rfl⟩ := ih hm
    exact ⟨'\\' :: c :: s, rest, rfl, .escaped hs, rfl⟩
  | case4 t hlast hescape => exact ⟨[], t, rfl, .nil, by injection h with h; exact h.symm⟩
  | case5 c t hlast hescape hne ih =>
    obtain ⟨m, hm, rfl⟩ := Option.map_eq_some_iff.1 h
    obtain ⟨s, rest, rfl, hs, rfl⟩ := ih hm
    refine ⟨c :: s, rest, rfl, .plain hne ?_ hs, rfl⟩
    rintro rfl
    cases s with
    | nil => exact hescape _ _ rfl rfl
    | cons d s => exact hescape _ _ rfl rfl

end Quoted

namespace Lexeme

/-! ## The front of a text -/

theorem exists_name {c : Char} {t : Text} {n : Nat} (h : directiveTail? c t = some n) :
    ∃ name rest, t = name ++ '(' :: rest ∧ isNameStart c ∧ (∀ d ∈ name, isNamePart d) ∧
      n = name.length + 1 := by
  simp only [directiveTail?] at h
  split at h
  · rename_i hstart
    rw [Bool.and_eq_true, beq_iff_eq] at hstart
    obtain ⟨rest, hrest⟩ := List.head?_eq_some_iff.1 hstart.2
    refine ⟨t.takeWhile isNamePart, rest, ?_, hstart.1, fun d hd => List.mem_takeWhile_imp hd,
      by injection h with h; exact h.symm⟩
    rw [← hrest, List.takeWhile_append_dropWhile]
  · cases h

theorem exists_letters {c : Char} {t : Text} {n : Nat} (h : operatorTail? c t = some n) :
    ∃ letters rest, c = '=' ∧ t = letters ++ '=' :: rest ∧ letters ≠ [] ∧
      (∀ d ∈ letters, d.isAlpha) ∧ n = letters.length + 1 := by
  simp only [operatorTail?] at h
  split at h
  · rename_i hstart
    simp only [Bool.and_eq_true, beq_iff_eq, Bool.not_eq_true', List.isEmpty_eq_false_iff] at hstart
    obtain ⟨⟨hc, hne⟩, hmark⟩ := hstart
    obtain ⟨rest, hrest⟩ := List.head?_eq_some_iff.1 hmark
    refine ⟨t.takeWhile Char.isAlpha, rest, hc, ?_, hne, fun d hd => List.mem_takeWhile_imp hd,
      by injection h with h; exact h.symm⟩
    rw [← hrest, List.takeWhile_append_dropWhile]
  · cases h

/-- What is read at the front of a text has the form of its kind. -/
theorem fits_classify (c : Char) (t : Text) :
    Fits (classify c t).1 (c :: t.take (classify c t).2) (t.drop (classify c t).2) := by
  cases hd : directiveTail? c t with
  | some n =>
    obtain ⟨name, rest, rfl, hc, hname, rfl⟩ := exists_name hd
    simp only [classify, hd, take_mark, drop_mark]
    exact .directive hc hname
  | none =>
  cases ho : operatorTail? c t with
  | some n =>
    obtain ⟨letters, rest, rfl, rfl, hne, hletters, rfl⟩ := exists_letters ho
    simp only [classify, hd, ho, take_mark, drop_mark]
    exact .operator hne hletters
  | none =>
  simp only [classify, hd, ho]
  split_ifs with hsep hcomma hclose hquote hword
  · simp only [Bool.or_eq_true, beq_iff_eq] at hsep
    rcases hsep with rfl | rfl
    · exact .semicolon
    · exact .ampersand
  · obtain rfl := beq_iff_eq.1 hcomma
    exact .comma
  · obtain rfl := beq_iff_eq.1 hclose
    exact .close
  · cases hq : Quoted.closing? c t with
    | some n =>
      obtain ⟨s, rest, rfl, hs, rfl⟩ := Quoted.exists_inside hq
      simp only [take_mark, drop_mark]
      exact .quoted hquote hs
    | none =>
      simp only [List.take_length, List.drop_length]
      exact .unterminated hquote
  · -- a word is cut where the word characters end
    have htake : t.take (t.takeWhile isWordChar).length = t.takeWhile isWordChar :=
      (List.prefix_iff_eq_take.1 (List.takeWhile_prefix isWordChar)).symm
    have hdrop : t.drop (t.takeWhile isWordChar).length = t.dropWhile isWordChar := calc
      _ = (t.takeWhile isWordChar ++ t.dropWhile isWordChar).drop
          (t.takeWhile isWordChar).length := by rw [List.takeWhile_append_dropWhile]
      _ = _ := List.drop_left
    rw [htake, hdrop]
    refine .word ?_ fun d hd => ?_
    · intro d hd
      rcases List.mem_cons.1 hd with rfl | hd
      · exact hword
      · exact List.mem_takeWhile_imp hd
    · have hstop := List.head?_dropWhile_not isWordChar t
      rw [Option.mem_def.1 hd] at hstop
      simp [hstop]
  · exact .stray

/-! ## The first kind that fits -/

theorem classify_ampersand (t : Text) : classify '&' t = (.separator, 0) := rfl

/-- A quote opens a quoted text, with a partner or without. -/
theorem classify_of_isQuote {c : Char} (h : isQuote c) (t : Text) :
    (classify c t).1 = .quoted ∨ (classify c t).1 = .unterminated := by
  rw [classify_quote h]
  cases Quoted.closing? c t with
  | some n => exact .inl rfl
  | none => exact .inr rfl

/-- A word character begins a word, or the name of a directive. -/
theorem classify_of_isWordChar {c : Char} (h : isWordChar c) (t : Text) :
    (classify c t).1 = .directive ∨ (classify c t).1 = .word := by
  have hne {d : Char} (hd : isWordChar d = false) : c ≠ d := ne_of_isWordChar h hd
  have hquote : isQuote c = false := by simp [isQuote, hne (d := '"') rfl, hne (d := '\'') rfl]
  simp only [classify, operatorTail?_eq_none (hne (d := '=') rfl) t]
  cases directiveTail? c t with
  | some n => exact .inl rfl
  | none =>
    right
    simp [hne (d := ';') rfl, hne (d := '&') rfl, hne (d := ',') rfl, hne (d := ')') rfl, hquote, h]

/-- No kind that fits is tried before the one that is read. -/
theorem order_classify_le {kind : Kind} {s rest : Text} (h : Fits kind s rest) {c : Char}
    {t : Text} (hs : s ++ rest = c :: t) :
    Kind.order.idxOf (classify c t).1 ≤ Kind.order.idxOf kind := by
  cases h with
  | directive hc hname =>
    rw [List.cons_append, List.append_assoc, List.singleton_append] at hs
    obtain ⟨rfl, rfl⟩ := List.cons.inj hs
    rw [classify_directive hc hname]
  | operator hne hletters =>
    rw [List.cons_append, List.append_assoc, List.singleton_append] at hs
    obtain ⟨rfl, rfl⟩ := List.cons.inj hs
    rw [classify_operator hne hletters]
  | semicolon =>
    obtain ⟨rfl, rfl⟩ := List.cons.inj hs
    rw [classify_semicolon]
  | ampersand =>
    obtain ⟨rfl, rfl⟩ := List.cons.inj hs
    rw [classify_ampersand]
  | comma =>
    obtain ⟨rfl, rfl⟩ := List.cons.inj hs
    rw [classify_comma]
  | close =>
    obtain ⟨rfl, rfl⟩ := List.cons.inj hs
    rw [classify_close]
  | quoted hquote hinside =>
    rw [List.cons_append, List.append_assoc, List.singleton_append] at hs
    obtain ⟨rfl, rfl⟩ := List.cons.inj hs
    rw [classify_quoted hquote hinside]
  | word hw =>
    obtain ⟨rfl, rfl⟩ := List.cons.inj hs
    rcases classify_of_isWordChar (hw _ List.mem_cons_self) _ with hkind | hkind
    · rw [hkind]
      decide
    · rw [hkind]
  | unterminated hquote =>
    obtain ⟨rfl, rfl⟩ := List.cons.inj hs
    rcases classify_of_isQuote hquote _ with hkind | hkind
    · rw [hkind]
      decide
    · rw [hkind]
  | stray => cases (classify c t).1 <;> decide

/-- The lexeme at the front of a text is the first that fits. -/
theorem chosen_classify (c : Char) (t : Text) :
    Chosen (classify c t).1 (c :: t.take (classify c t).2) (t.drop (classify c t).2) := by
  refine ⟨fits_classify c t, fun kind s rest hs h => order_classify_le h ?_⟩
  rw [hs, List.cons_append, List.take_append_drop]

/-! ## Tilings -/

/-- The lexemes take up a text to its end. -/
theorem tiles_scan (start : Nat) (t : Text) : Tiles start t (scan start t) := by
  induction t using scan_induction generalizing start with
  | nil =>
    rw [scan_nil]
    exact .nil
  | gap c t h ih =>
    rw [scan_gap h]
    exact .gap h (ih _)
  | lexeme c t h ih =>
    have hsplit : c :: t = (c :: t.take (classify c t).2) ++ t.drop (classify c t).2 := by
      rw [List.cons_append, List.take_append_drop]
    rw [scan_cons h]
    conv => arg 2; rw [hsplit]
    exact .lexeme (by rintro _ ⟨⟩; exact h) (chosen_classify c t) (ih _)

theorem Fits.ne_nil {kind : Kind} {s rest : Text} (h : Fits kind s rest) : s ≠ [] := by
  cases h <;> exact List.cons_ne_nil _ _

variable {start : Nat} {t : Text} {ls : List Lexeme}

/-- A lexeme takes up a part of the text, and has the form of its kind there. -/
theorem Tiles.exists_split (h : Tiles start t ls) : ∀ l ∈ ls, ∃ before rest,
    t = before ++ l.text ++ rest ∧ start + Text.byteSize before = l.start ∧
      Fits l.kind l.text rest := by
  induction h with
  | nil => exact fun l hl => (nomatch hl)
  | @gap start c t ls _ _ ih =>
    intro l hl
    obtain ⟨before, rest, rfl, hstart, hfits⟩ := ih l hl
    exact ⟨c :: before, rest, rfl, by rw [← hstart, Text.byteSize_cons, Nat.add_assoc], hfits⟩
  | @lexeme start kind s rest ls _ hchosen _ ih =>
    intro l hl
    rcases List.mem_cons.1 hl with rfl | hl
    · exact ⟨[], rest, rfl, rfl, hchosen.1⟩
    · obtain ⟨before, rest, rfl, hstart, hfits⟩ := ih l hl
      refine ⟨s ++ before, rest, by simp, ?_, hfits⟩
      rw [← hstart, Text.byteSize_append, Nat.add_assoc]

/-- The lexemes come in order, and no two overlap. -/
theorem Tiles.pairwise (h : Tiles start t ls) :
    ls.Pairwise fun l m => l.start < m.start ∧ l.stop ≤ m.start := by
  induction h with
  | nil => exact .nil
  | gap _ _ ih => exact ih
  | @lexeme start kind s rest ls _ hchosen hrest ih =>
    refine .cons (fun m hm => ?_) ih
    obtain ⟨before, _, _, hstart, _⟩ := hrest.exists_split m hm
    have hpos := Text.byteSize_pos hchosen.1.ne_nil
    simp only [stop]
    omega

/-- A character in no lexeme is a gap. -/
theorem Tiles.isGap (h : Tiles start t ls) : ∀ before c after, t = before ++ c :: after →
    (∀ l ∈ ls, ¬ (l.start ≤ start + Text.byteSize before ∧
      start + Text.byteSize before < l.stop)) → Text.isGap c := by
  induction h with
  | nil => simp
  | @gap start d t ls hd _ ih =>
    intro before c after ht hnone
    cases before with
    | nil =>
      obtain ⟨rfl, -⟩ := List.cons.inj ht
      exact hd
    | cons b before =>
      obtain ⟨rfl, rfl⟩ := List.cons.inj ht
      refine ih before c after rfl fun l hl => ?_
      rw [Nat.add_assoc]
      exact hnone l hl
  | @lexeme start kind s rest ls _ _ _ ih =>
    intro before c after ht hnone
    rcases List.append_eq_append_iff.1 ht with ⟨more, rfl, hrest⟩ | ⟨more, rfl, hafter⟩
    · -- the character stands after the lexeme
      refine ih more c after hrest fun l hl => ?_
      have := hnone l (List.mem_cons_of_mem _ hl)
      rwa [Text.byteSize_append, ← Nat.add_assoc] at this
    · cases more with
      | nil =>
        refine ih [] c after hafter.symm fun l hl => ?_
        simpa using hnone l (List.mem_cons_of_mem _ hl)
      | cons d more =>
        -- the character would stand in the lexeme
        have hd := d.utf8Size_pos
        refine absurd ⟨?_, ?_⟩ (hnone _ List.mem_cons_self)
        · exact Nat.le_add_right _ _
        · simp only [stop, Text.byteSize_append, Text.byteSize_cons]
          omega

end Lexeme

namespace Token

open Lexeme Outcome

/-! ## Tokens of lexemes -/

theorem inside_append (a b : Char) (s : Text) : inside (a :: (s ++ [b])) = s := by
  rw [inside, List.drop_one, List.tail_cons, List.dropLast_concat]

theorem lower_of_ofMnemonic? {t : Text} {op : Operator} (h : Operator.ofMnemonic? t = some op) :
    Text.lower t = op.mnemonic.toList := by
  have := List.find?_some h
  exact (beq_iff_eq.1 this).symm

theorem ne_of_ofMnemonic? {t : Text} (h : Operator.ofMnemonic? t = none) (op : Operator) :
    op.mnemonic.toList ≠ Text.lower t := by
  have := List.find?_eq_none.1 h op (Operator.mem_all op)
  rwa [beq_iff_eq] at this

/-- The token of a lexeme is written as the text of the lexeme. -/
theorem readFrom_ofLexeme {named operated : Bool} {l : Lexeme} {rest : Text} {token : Token}
    (hfits : Fits l.kind l.text rest) (h : ofLexeme named operated l = .ok token) :
    token.ReadFrom l.text := by
  obtain ⟨kind, s, start⟩ := l
  cases hfits with
  | @directive c name =>
    rw [ofLexeme, ← List.cons_append, List.dropLast_concat, Except.ok.injEq] at h
    subst h
    exact .directive
  | @operator letters =>
    simp only [ofLexeme, inside_append] at h
    cases hop : Operator.ofMnemonic? letters with
    | none => simp [hop] at h
    | some op =>
      cases named with
      | false => simp [hop] at h
      | true =>
        simp only [hop, if_true, Except.ok.injEq] at h
        subst h
        exact .operator (lower_of_ofMnemonic? hop)
  | semicolon => cases h; exact .semicolon
  | ampersand => cases h; exact .ampersand
  | comma => cases h; exact .comma
  | close => cases h; exact .close
  | quoted hquote hinside =>
    simp only [ofLexeme, inside_append, Except.ok.injEq] at h
    subst h
    exact .quoted hquote hinside (Quoted.unescapes_unescape hinside)
  | word hw =>
    cases operated <;> cases h
    · exact .bare hw
    · exact .field hw
  | unterminated => cases h
  | stray => cases h

/-- A lexeme that is no token is an offence. -/
theorem offends_ofLexeme {before : List Lexeme} {named operated : Bool} {l : Lexeme} {rest : Text}
    {cause : ParseError.Cause} (hfits : Fits l.kind l.text rest)
    (hnamed : before.getLast?.elim false (fun p => isNaming p.kind) = named)
    (h : ofLexeme named operated l = .error cause) : Offends before l cause := by
  obtain ⟨kind, s, start⟩ := l
  cases hfits with
  | @operator letters =>
    simp only [ofLexeme, inside_append] at h
    cases hop : Operator.ofMnemonic? letters with
    | none =>
      simp only [hop, Except.error.injEq] at h
      subst h
      exact .unknown rfl rfl (ne_of_ofMnemonic? hop)
    | some op =>
      cases named with
      | false =>
        simp only [hop, Bool.false_eq_true, if_false, Except.error.injEq] at h
        subst h
        refine .unnamed rfl rfl fun p hp => ?_
        rw [Option.mem_def.1 hp, Option.elim_some] at hnamed
        constructor <;> intro hkind <;> rw [hkind] at hnamed <;> cases hnamed
      | true => simp [hop] at h
  | unterminated => cases h; exact .unterminated rfl
  | stray => cases h; exact .stray rfl rfl
  | _ => cases h

/-- Every token is that of one lexeme, and stands where the lexeme does. -/
theorem forall₂_ofLexemes {text : Text} {named : Bool} {ls : List Lexeme} {ts : List Located}
    (h : ofLexemes text named ls = .ok ts) :
    List.Forall₂ (fun l t => (∃ named operated, ofLexeme named operated l = .ok t.token) ∧
      t.start = l.start ∧ t.stop = l.stop) ls ts := by
  induction ls generalizing named ts with
  | nil => cases h; exact .nil
  | cons l ls ih =>
    rw [ofLexemes] at h
    split at h
    · cases h
    · rename_i token htoken
      obtain ⟨us, hus, rfl⟩ := map_eq_ok.1 h
      exact .cons ⟨⟨_, _, htoken⟩, rfl, rfl⟩ (ih hus)

/-- What is wrong with a lexeme does not depend on what stands behind it. -/
theorem ofLexeme_eq_error_iff {named : Bool} {l : Lexeme} {cause : ParseError.Cause}
    (operated operated' : Bool) : ofLexeme named operated l = .error cause ↔
      ofLexeme named operated' l = .error cause := by
  cases hk : l.kind with
  | word => simp [ofLexeme, hk]
  | _ => simp only [ofLexeme, hk]

/-- Whether a lexeme is a token does not depend on it either. -/
theorem exists_ofLexeme_iff {named : Bool} {l : Lexeme} (operated operated' : Bool) :
    (∃ t, ofLexeme named operated l = .ok t) ↔ ∃ t, ofLexeme named operated' l = .ok t := by
  rw [exists_eq_ok_iff, exists_eq_ok_iff]
  exact forall_congr' fun _ => not_congr (ofLexeme_eq_error_iff operated operated')

/-- Lexemes are tokens when the first is one and the others are. -/
theorem exists_ofLexemes_cons {text : Text} {named : Bool} {l : Lexeme} {ls : List Lexeme} :
    (∃ ts, ofLexemes text named (l :: ls) = .ok ts) ↔
      (∃ t, ofLexeme named false l = .ok t) ∧
        ∃ ts, ofLexemes text (isNaming l.kind) ls = .ok ts := by
  rw [exists_ofLexeme_iff false (ls.head?.any (·.kind == .operator)), ofLexemes]
  cases ofLexeme named (ls.head?.any (·.kind == .operator)) l with
  | error cause => simp
  | ok t => simp [map_eq_ok]

theorem elim_getLast?_cons {α β : Type} (f : α → β) (a : α) (as : List α) (b : β) :
    (a :: as).getLast?.elim b f = as.getLast?.elim (f a) f := by
  rw [List.getLast?_cons, Option.elim_some]
  cases as.getLast? <;> rfl

/-- The error is the offence of the first lexeme that is no token. -/
theorem ofLexemes_eq_error {text : Text} {named : Bool} {ls : List Lexeme} {error : ParseError}
    (h : ofLexemes text named ls = .error error) :
    ∃ before l after operated, ls = before ++ l :: after ∧
      (∃ us, ofLexemes text named before = .ok us) ∧
      ofLexeme (before.getLast?.elim named fun p => isNaming p.kind) operated l =
        .error error.cause ∧
      error = lexicalError text error.cause l := by
  induction ls generalizing named with
  | nil => cases h
  | cons l ls ih =>
    rw [ofLexemes] at h
    split at h
    · rename_i cause hcause
      obtain rfl : lexicalError text cause l = error := by injection h
      exact ⟨[], l, ls, _, rfl, ⟨[], rfl⟩, hcause, rfl⟩
    · cases hrest : ofLexemes text (isNaming l.kind) ls with
      | ok us => rw [hrest] at h; cases h
      | error e =>
        obtain rfl : e = error := by rw [hrest] at h; injection h
        obtain ⟨before, m, after, operated, rfl, hbefore, hm, he⟩ := ih hrest
        rename_i token htoken
        refine ⟨l :: before, m, after, operated, rfl,
          exists_ofLexemes_cons.2 ⟨(exists_ofLexeme_iff _ _).1 ⟨token, htoken⟩, hbefore⟩, ?_, he⟩
        rw [elim_getLast?_cons]
        exact hm

/-! ## Tokens of a text -/

theorem isBoundary_of_split {text before s rest : Text} (h : text = before ++ s ++ rest) :
    Text.IsBoundary text (Text.byteSize before) ∧
      Text.IsBoundary text (Text.byteSize before + Text.byteSize s) := by
  subst h
  exact ⟨⟨before, s ++ rest, by rw [List.append_assoc], rfl⟩,
    ⟨before ++ s, rest, rfl, Text.byteSize_append _ _⟩⟩

/-- The tokens of lexemes that make up a text cover it. -/
theorem covers_of_tiles {text : Text} {ls : List Lexeme} {ts : List Located}
    (htiles : Tiles 0 text ls)
    (h : List.Forall₂ (fun l t => (∃ named operated, ofLexeme named operated l = .ok t.token) ∧
      t.start = l.start ∧ t.stop = l.stop) ls ts) : Covers text ts := by
  have hbounds : ts.map (fun t => (t.start, t.stop)) = ls.map fun l => (l.start, l.stop) := by
    clear htiles
    induction h with
    | nil => rfl
    | cons hlt _ ih => rw [List.map_cons, List.map_cons, ih, hlt.2.1, hlt.2.2]
  constructor
  case within =>
    intro t ht
    obtain ⟨l, hl, -, hstart, hstop⟩ := forall₂_mem_right h t ht
    obtain ⟨before, rest, hsplit, hbefore, hfits⟩ := htiles.exists_split l hl
    obtain ⟨ha, hb⟩ := isBoundary_of_split hsplit
    have hpos := Text.byteSize_pos hfits.ne_nil
    have hsize := congrArg Text.byteSize hsplit
    simp only [Text.byteSize_append] at hsize
    rw [Nat.zero_add] at hbefore
    rw [hstart, hstop, stop, ← hbefore]
    exact ⟨ha, hb, by omega, by omega⟩
  case apart =>
    have hapart : (ls.map fun l => (l.start, l.stop)).Pairwise fun a b =>
        a.1 < b.1 ∧ a.2 ≤ b.1 := List.pairwise_map.2 htiles.pairwise
    rw [← hbounds, List.pairwise_map] at hapart
    exact hapart
  case gap =>
    intro before c after htext hnone
    refine htiles.isGap before c after htext fun l hl hin => ?_
    have hmem : (l.start, l.stop) ∈ ts.map fun t => (t.start, t.stop) := by
      rw [hbounds]
      exact List.mem_map_of_mem hl
    obtain ⟨t, ht, hbound⟩ := List.mem_map.1 hmem
    obtain ⟨hstart, hstop⟩ := Prod.mk.inj hbound
    rw [Nat.zero_add, ← hstart, ← hstop] at hin
    exact hnone t ht hin
  case read =>
    intro t ht
    obtain ⟨l, hl, ⟨named, operated, htoken⟩, hstart, hstop⟩ := forall₂_mem_right h t ht
    obtain ⟨before, rest, hsplit, hbefore, hfits⟩ := htiles.exists_split l hl
    rw [Nat.zero_add] at hbefore
    rw [hstart, hstop, stop, ← hbefore, hsplit, Text.slice_append]
    exact readFrom_ofLexeme hfits htoken

/-- A token is written as a part of the text. -/
theorem exists_readFrom {text : Text} {ts : List Located} (h : tokenize text = .ok ts)
    {t : Located} (ht : t ∈ ts) : ∃ s, t.token.ReadFrom s ∧ s ⊆ text := by
  obtain ⟨l, hl, ⟨named, operated, htoken⟩, -⟩ := forall₂_mem_right (forall₂_ofLexemes h) t ht
  obtain ⟨before, rest, rfl, -, hfits⟩ := (tiles_scan 0 text).exists_split l hl
  exact ⟨l.text, readFrom_ofLexeme hfits htoken, by simp⟩

/-- **Nothing is lost between the tokens of a text.**  The lexemes take up every text to its
    end, so that reading it fails only at a lexeme that is no token; and where it does not fail,
    the tokens cover the text. -/
theorem tokenize_covers (text : Text) :
    Tiles 0 text (scan 0 text) ∧
      (∀ ts, tokenize text = .ok ts → Covers text ts) ∧
      ∀ error, tokenize text = .error error →
        ∃ before l after, scan 0 text = before ++ l :: after ∧ Offends before l error.cause ∧
          error.text = some l.text ∧ error.position = some l.start := by
  have htiles := tiles_scan 0 text
  refine ⟨htiles, fun ts h => covers_of_tiles htiles (forall₂_ofLexemes h), fun error h => ?_⟩
  obtain ⟨before, l, after, operated, hls, -, hl, he⟩ := ofLexemes_eq_error h
  have hmem : l ∈ scan 0 text := by
    rw [hls]
    exact List.mem_append_right _ List.mem_cons_self
  obtain ⟨_, _, _, _, hfits⟩ := htiles.exists_split l hmem
  refine ⟨before, l, after, hls, offends_ofLexeme hfits rfl hl, ?_, ?_⟩ <;> rw [he] <;> rfl

/-- A text with an escaped quote and a letter of two bytes; and one whose second operator is
    unknown. -/
theorem tokenize_covers_escaped :
    Covers "a=EQ='\\'' ;é".toList
        [⟨.field ['a'], 0, 1⟩, ⟨.operator .equal, 1, 5⟩, ⟨.quoted ['\''], 5, 9⟩,
          ⟨.separator, 10, 11⟩, ⟨.bare ['é'], 11, 13⟩] ∧
      ∃ before l after, scan 0 "a=eq=b=of=".toList = before ++ l :: after ∧
        Offends before l (.unknownOperator "of".toList) := by
  have hread : tokenize "a=EQ='\\'' ;é".toList =
      .ok [⟨.field ['a'], 0, 1⟩, ⟨.operator .equal, 1, 5⟩, ⟨.quoted ['\''], 5, 9⟩,
        ⟨.separator, 10, 11⟩, ⟨.bare ['é'], 11, 13⟩] := by decide +kernel
  have hfail : tokenize "a=eq=b=of=".toList =
      .error { cause := .unknownOperator "of".toList, text := some "=of=".toList,
               position := some 6, line := some 1, column := some 7 } := by decide +kernel
  obtain ⟨before, l, after, hls, hl, -⟩ := (tokenize_covers "a=eq=b=of=".toList).2.2 _ hfail
  exact ⟨(tokenize_covers "a=EQ='\\'' ;é".toList).2.1 _ hread, before, l, after, hls, hl⟩

end Token

end ResourceQuery
