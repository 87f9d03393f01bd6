/-
  Resource queries — names in either case.

  * `Target.read_eq_ok_of_lower`, `SortKey.Written.of_lower`, `Page.CountWritten.of_lower`: what an
    argument denotes does not depend on the case of its letters.
  * `Token.Recased`: a text with letters in another case, but none of a value.
  * `Token.Renamed`: tokens with names in another case; `renamed_of_recased`: those of such a text.
  * `Statement.Written.renamed`: they are written for the same statement.
  * `parse_recased`: so the case of the names in a text changes nothing of what is read.
-/
import ResourceQuery.Plan
import ResourceQuery.Proofs.Query.Attached
import ResourceQuery.Proofs.Token.Letters

namespace ResourceQuery

open Outcome Token

/-! ## Targets -/

namespace Target

variable {w w' : Text} {target : Target}

theorem fault?_eq_none {path : Text} : fault? path = none ↔
    path ≠ [] ∧ ∀ name ∈ Text.split '.' path, name ≠ [] ∧ ∀ c ∈ name, isNameChar c := by
  rw [fault?]
  split
  · rename_i hnil
    simp [List.isEmpty_iff.1 hnil]
  · rename_i hne
    rw [List.findSome?_eq_none_iff, and_iff_right (mt List.isEmpty_iff.2 hne)]
    refine forall₂_congr fun name _ => ?_
    rw [nameFault?]
    split
    · rename_i hnil
      simp [List.isEmpty_iff.1 hnil]
    · rename_i hne
      simp [mt List.isEmpty_iff.2 hne]

theorem fault?_lower (path : Text) : fault? (Text.lower path) = none ↔ fault? path = none := by
  have hchar (c : Char) : isNameChar c.toLower = isNameChar c := Lexeme.isNamePart_toLower c
  rw [fault?_eq_none, fault?_eq_none, Text.split_lower rfl]
  simp [Text.lower, hchar]

theorem read_eq_ok : read w = .ok target ↔
    fault? (Text.trim w) = none ∧ (Text.split '.' (Text.trim w)).map Text.lower = target.names := by
  unfold read
  split
  · rename_i cause h
    simp [h]
  · rename_i h
    rw [and_iff_right h, Except.ok.injEq]
    constructor
    · rintro rfl
      rfl
    · intro hnames
      cases target
      cases hnames
      rfl

theorem read_lower : read (Text.lower w) = .ok target ↔ read w = .ok target := by
  have hlower (names : List Text) :
      (names.map Text.lower).map Text.lower = names.map Text.lower := by
    rw [List.map_map]
    exact List.map_congr_left fun name _ => Text.lower_lower name
  rw [read_eq_ok, read_eq_ok, Text.trim_lower, fault?_lower, Text.split_lower rfl, hlower]

/-- The target that a text names does not depend on the case of letters. -/
theorem read_eq_ok_of_lower (h : Text.lower w' = Text.lower w) (hw : read w = .ok target) :
    read w' = .ok target := by
  rw [← read_lower, h, read_lower]
  exact hw

end Target

/-! ## Arguments -/

section
variable {w w' : Text}

theorem Target.Written.of_lower {target : Target} (h : Text.lower w' = Text.lower w)
    (hw : Written (.bare w) target) : Written (.bare w') target := by
  cases hw with
  | bare hread => exact .bare (read_eq_ok_of_lower h hread)

theorem Text.head?_of_lower {mark : Char} (hmark : mark.isAlpha = false)
    (h : lower w' = lower w) : w'.head? = some mark ↔ w.head? = some mark := by
  have hhead := head?_lower hmark w'
  rw [h, head?_lower hmark, Bool.eq_iff_iff, beq_iff_eq, beq_iff_eq] at hhead
  exact hhead.symm

/-- A sign stays in front of a text. -/
theorem Text.exists_of_lower_cons {mark : Char} (hmark : mark.isAlpha = false)
    (h : lower w' = lower (mark :: w)) : ∃ v, w' = mark :: v ∧ lower v = lower w := by
  have hhead : w'.head? = some mark := (head?_of_lower hmark h).2 rfl
  obtain ⟨v, rfl⟩ := List.head?_eq_some_iff.1 hhead
  exact ⟨v, rfl, (List.cons.inj h).2⟩

theorem SortKey.Written.of_lower {key : SortKey} (h : Text.lower w' = Text.lower w)
    (hw : Written (.bare w) key) : Written (.bare w') key := by
  cases hw with
  | unsigned hplus hminus hread =>
    exact .unsigned (mt (Text.head?_of_lower rfl h).1 hplus)
      (mt (Text.head?_of_lower rfl h).1 hminus) (Target.read_eq_ok_of_lower h hread)
  | plus hread =>
    obtain ⟨v, rfl, hv⟩ := Text.exists_of_lower_cons rfl h
    exact .plus (Target.read_eq_ok_of_lower hv hread)
  | minus hread =>
    obtain ⟨v, rfl, hv⟩ := Text.exists_of_lower_cons rfl h
    exact .minus (Target.read_eq_ok_of_lower hv hread)

/-- There are no letters in a count. -/
theorem Numeral.isAlpha_of_readUInt64? {n : UInt64} (h : readUInt64? w = some n) :
    ∀ c ∈ w, c.isAlpha = false := by
  have hdigits {ds : Text} {f : Nat → Option UInt64} (h : (readNat? ds).bind f = some n) :
      ∀ c ∈ ds, c.isAlpha = false := by
    obtain ⟨m, hm, -⟩ := Option.bind_eq_some_iff.1 h
    obtain ⟨-, hds, -⟩ := eq_value_of_readNat? hm
    intro c hc
    have hdigit := toNat_of_isDigit (hds c hc)
    rw [← Bool.not_eq_true, isAlpha_iff]
    omega
  unfold readUInt64? at h
  dsimp only at h
  split at h
  · exact List.forall_mem_cons.2 ⟨rfl, hdigits h⟩
  · exact hdigits h

theorem Page.CountWritten.of_lower {n : UInt64} (h : Text.lower w' = Text.lower w)
    (hw : CountWritten (.bare w) n) : CountWritten (.bare w') n := by
  cases hw with
  | bare hread =>
    rw [Text.eq_of_lower_eq h (Numeral.isAlpha_of_readUInt64? hread)]
    exact .bare hread

end

/-! ## Tokens -/

namespace Token

variable {inside : Bool} {ts ts' : List Token}

/-- Whether arguments of a directive may stand behind a token, where `inside` tells whether the
    token is among some. -/
def encloses (inside : Bool) : Token → Bool
  | .directive _ => true
  | .close | .separator => false
  | _ => inside

theorem encloses_iff {t : Token} : encloses inside t = true ↔
    (∃ name, t = .directive name) ∨ inside = true ∧ t ≠ .close ∧ t ≠ .separator := by
  cases t <;> simp [encloses]

theorem encloses_concat {t : Token} : Encloses (ts ++ [t]) ↔
    (∃ name, t = .directive name) ∨ Encloses ts ∧ t ≠ .close ∧ t ≠ .separator := by
  constructor
  · rintro ⟨before, name, args, h, hargs⟩
    rcases List.eq_nil_or_concat' args with rfl | ⟨args, u, rfl⟩
    · obtain ⟨-, ⟨⟩⟩ := List.append_inj' h rfl
      exact .inl ⟨name, rfl⟩
    · have hsplit : ts ++ [t] = before ++ .directive name :: args ++ [u] := by simp [h]
      obtain ⟨rfl, ⟨⟩⟩ := List.append_inj' hsplit rfl
      obtain ⟨hargs, hu⟩ := List.forall_mem_append.1 hargs
      exact .inr ⟨⟨before, name, args, rfl, hargs⟩, hu _ List.mem_cons_self⟩
  · rintro (⟨name, rfl⟩ | ⟨⟨before, name, args, rfl, hargs⟩, ht⟩)
    · exact ⟨ts, name, [], rfl, List.forall_mem_nil _⟩
    · refine ⟨before, name, args ++ [t], by simp, ?_⟩
      exact List.forall_mem_append.2 ⟨hargs, List.forall_mem_singleton.2 ht⟩

theorem foldl_encloses (ts : List Token) : ts.foldl encloses false = true ↔ Encloses ts := by
  induction ts using List.reverseRecOn with
  | nil =>
    refine ⟨fun h => (nomatch h), ?_⟩
    rintro ⟨before, name, args, h, -⟩
    cases before <;> cases h
  | append_singleton ts t ih =>
    rw [List.foldl_append, List.foldl_cons, List.foldl_nil, encloses_iff, ih, encloses_concat]

/-- Whether a token is a value, where `enclosed` says that it is among the arguments of a
    directive. -/
def IsValue (enclosed : Prop) : Token → Prop
  | .quoted _ => True
  | .bare _ => ¬ enclosed
  | _ => False

/-- Whether the second text differs from the first, which has the tokens, in the case of letters at
    most, and in none of a value: in letters of fields, operators, directives and arguments. -/
structure Recased (text : Text) (ts : List Located) (text' : Text) : Prop where
  letters : Text.lower text' = Text.lower text
  values : ∀ before t after, ts = before ++ t :: after →
    t.token.IsValue (Encloses (ofLocated before)) →
    Text.slice text' t.start t.stop = Text.slice text t.start t.stop

/-- Whether tokens differ in the case of letters at most, and in fields and arguments only, where
    the flag tells whether they begin among the arguments of a directive. -/
inductive Renamed : Bool → List Token → List Token → Prop
  | nil {inside : Bool} : Renamed inside [] []
  | same {inside : Bool} {t : Token} {ts ts' : List Token} :
      Renamed (encloses inside t) ts ts' → Renamed inside (t :: ts) (t :: ts')
  | field {inside : Bool} {w w' : Text} {ts ts' : List Token} : Text.lower w' = Text.lower w →
      Renamed inside ts ts' → Renamed inside (.field w :: ts) (.field w' :: ts')
  | argument {w w' : Text} {ts ts' : List Token} : Text.lower w' = Text.lower w →
      Renamed true ts ts' → Renamed true (.bare w :: ts) (.bare w' :: ts')

/-- Something of every token of a sequence, and of what stands in front of it. -/
theorem forall_split_cons {α : Type} {P : List α → α → Prop} {a : α} {as : List α} :
    (∀ before b after, a :: as = before ++ b :: after → P before b) ↔
      P [] a ∧ ∀ before b after, as = before ++ b :: after → P (a :: before) b := by
  constructor
  · intro h
    refine ⟨h [] a as rfl, fun before b after hsplit => h (a :: before) b after ?_⟩
    rw [hsplit, List.cons_append]
  · rintro ⟨ha, has⟩ (_ | ⟨_, before⟩) b after hsplit
    · obtain ⟨rfl, -⟩ := List.cons.inj hsplit
      exact ha
    · obtain ⟨rfl, hrest⟩ := List.cons.inj hsplit
      exact has before b after hrest

/-! ## Lexemes -/

theorem ofMnemonic?_of_lower {t t' : Text} (h : Text.lower t' = Text.lower t) :
    Operator.ofMnemonic? t' = Operator.ofMnemonic? t := by
  rw [Operator.ofMnemonic?, Operator.ofMnemonic?, h]

/-- The token of a lexeme in another case, which is that of the lexeme itself where it is a
    value. -/
theorem renamed_ofLexeme {named operated : Bool} {l l' : Lexeme} {t : Token}
    (h : l.lower = l'.lower) (ht : ofLexeme named operated l = .ok t)
    (hvalue : t.IsValue (inside = true) → l'.text = l.text) :
    ∃ t', ofLexeme named operated l' = .ok t' ∧
      ∀ us us', Renamed (encloses inside t) us us' → Renamed inside (t :: us) (t' :: us') := by
  obtain ⟨kind, text, start⟩ := l
  obtain ⟨kind', text', start'⟩ := l'
  obtain ⟨rfl, htext, rfl⟩ := Lexeme.mk.inj h
  dsimp only at htext hvalue
  cases kind with
  | directive =>
    cases ht
    have hname : Text.lower text'.dropLast = Text.lower text.dropLast := by
      rw [Text.lower, Text.lower, List.map_dropLast, List.map_dropLast]
      exact congrArg List.dropLast htext.symm
    exact ⟨_, rfl, fun us us' hus => by rw [hname]; exact .same hus⟩
  | operator =>
    have hinside : Text.lower (Token.inside text') = Text.lower (Token.inside text) := by
      rw [Token.inside, Token.inside, Text.lower, Text.lower, List.map_dropLast, List.map_dropLast,
        List.map_drop, List.map_drop]
      exact congrArg (fun s => (List.drop 1 s).dropLast) htext.symm
    simp only [ofLexeme, ofMnemonic?_of_lower hinside] at ht ⊢
    cases hop : Operator.ofMnemonic? (Token.inside text) with
    | none => simp [hop] at ht
    | some op =>
      cases named with
      | false => simp [hop] at ht
      | true =>
        simp only [hop, if_true, Except.ok.injEq] at ht
        subst ht
        exact ⟨_, rfl, fun us us' => .same⟩
  | quoted =>
    cases ht
    obtain rfl := hvalue trivial
    exact ⟨_, rfl, fun us us' => .same⟩
  | word =>
    cases operated with
    | true =>
      cases ht
      exact ⟨_, rfl, fun us us' => .field htext.symm⟩
    | false =>
      cases ht
      cases inside with
      | true => exact ⟨_, rfl, fun us us' => .argument htext.symm⟩
      | false =>
        obtain rfl := hvalue Bool.false_ne_true
        exact ⟨_, rfl, fun us us' => .same⟩
  | separator => cases ht; exact ⟨_, rfl, fun us us' => .same⟩
  | comma => cases ht; exact ⟨_, rfl, fun us us' => .same⟩
  | close => cases ht; exact ⟨_, rfl, fun us us' => .same⟩
  | unterminated => cases ht
  | stray => cases ht

/-- The tokens of lexemes in another case, where those that are values are in the same. -/
theorem renamed_ofLexemes {text text' : Text} {named : Bool} {ls ls' : List Lexeme}
    {located : List Located} (hls : List.Forall₂ (fun l l' => l.lower = l'.lower) ls ls')
    (h : ofLexemes text named ls = .ok located)
    (hslice : ∀ l ∈ ls, Text.slice text l.start l.stop = l.text)
    (hslice' : ∀ l ∈ ls', Text.slice text' l.start l.stop = l.text)
    (hvalues : ∀ before t after, located = before ++ t :: after →
      t.token.IsValue ((ofLocated before).foldl encloses inside = true) →
      Text.slice text' t.start t.stop = Text.slice text t.start t.stop) :
    ∃ located', ofLexemes text' named ls' = .ok located' ∧
      Renamed inside (ofLocated located) (ofLocated located') := by
  induction hls generalizing named located inside with
  | nil =>
    cases h
    exact ⟨[], rfl, .nil⟩
  | @cons l l' ls ls' hl hls ih =>
    obtain ⟨hkind, -, hstart⟩ := Lexeme.mk.inj hl
    have hstop := Lexeme.stop_eq_of_lower_eq hl
    obtain ⟨hsl, hslice⟩ := List.forall_mem_cons.1 hslice
    obtain ⟨hsl', hslice'⟩ := List.forall_mem_cons.1 hslice'
    have hnext : ls'.head?.any (·.kind == .operator) = ls.head?.any (·.kind == .operator) := by
      cases hls with
      | nil => rfl
      | cons hm => rw [List.head?_cons, List.head?_cons, Option.any_some, Option.any_some,
          (Lexeme.mk.inj hm).1]
    rw [ofLexemes] at h
    split at h
    · cases h
    rename_i token htoken
    obtain ⟨located, hrest, rfl⟩ := map_eq_ok.1 h
    obtain ⟨hfirst, hvalues⟩ := forall_split_cons.1 hvalues
    have hvalue : token.IsValue (inside = true) → l'.text = l.text := by
      intro hvalue
      rw [← hsl, ← hsl', ← hstart, ← hstop]
      exact hfirst hvalue
    obtain ⟨token', htoken', hrenamed⟩ := renamed_ofLexeme hl htoken hvalue
    obtain ⟨located', hrest', hus⟩ : ∃ located', ofLexemes text' (isNaming l.kind) ls' =
        .ok located' ∧ Renamed (encloses inside token) (ofLocated located) (ofLocated located') :=
      ih hrest hslice hslice' hvalues
    refine ⟨⟨token', l'.start, l'.stop⟩ :: located', ?_, hrenamed _ _ hus⟩
    rw [ofLexemes, hnext, htoken', ← hkind, hrest']
    rfl

/-- The tokens of a text in another case have their names in another case. -/
theorem renamed_of_recased {text text' : Text} {located : List Located}
    (h : tokenize text = .ok located) (hr : Recased text located text') :
    ∃ located', tokenize text' = .ok located' ∧
      Renamed false (ofLocated located) (ofLocated located') := by
  refine renamed_ofLexemes (Lexeme.forall₂_scan hr.letters) h
    (fun l => Lexeme.slice_of_mem_scan) (fun l => Lexeme.slice_of_mem_scan) ?_
  intro before t after hsplit hvalue
  rw [propext (foldl_encloses _)] at hvalue
  exact hr.values before t after hsplit hvalue

/-! ## Pieces -/

/-- Renamed tokens are cut into renamed pieces; a separator ends a directive. -/
theorem Renamed.splitOn (h : Renamed inside ts ts') :
    ∃ p ps p' ps', ts.splitOn .separator = p :: ps ∧ ts'.splitOn .separator = p' :: ps' ∧
      Renamed inside p p' ∧ List.Forall₂ (Renamed false) ps ps' := by
  induction h with
  | nil => exact ⟨[], [], [], [], rfl, rfl, .nil, .nil⟩
  | @same inside t ts ts' _ ih =>
    obtain ⟨p, ps, p', ps', hsplit, hsplit', hp, hps⟩ := ih
    rw [splitOn_cons, splitOn_cons, hsplit, hsplit']
    by_cases ht : t = .separator
    · subst ht
      exact ⟨_, _, _, _, rfl, rfl, .nil, .cons hp hps⟩
    · rw [if_neg ht, if_neg ht]
      exact ⟨_, _, _, _, rfl, rfl, .same hp, hps⟩
  | field hw _ ih =>
    obtain ⟨p, ps, p', ps', hsplit, hsplit', hp, hps⟩ := ih
    rw [splitOn_cons, splitOn_cons, hsplit, hsplit', if_neg Token.noConfusion,
      if_neg Token.noConfusion]
    exact ⟨_, _, _, _, rfl, rfl, .field hw hp, hps⟩
  | argument hw _ ih =>
    obtain ⟨p, ps, p', ps', hsplit, hsplit', hp, hps⟩ := ih
    rw [splitOn_cons, splitOn_cons, hsplit, hsplit', if_neg Token.noConfusion,
      if_neg Token.noConfusion]
    exact ⟨_, _, _, _, rfl, rfl, .argument hw hp, hps⟩

theorem Renamed.eq_nil_iff (h : Renamed inside ts ts') : ts = [] ↔ ts' = [] := by
  cases h <;> simp

theorem Renamed.pieces (h : Renamed false ts ts') :
    List.Forall₂ (Renamed false) (pieces ts) (pieces ts') := by
  obtain ⟨p, ps, p', ps', hsplit, hsplit', hp, hps⟩ := h.splitOn
  rw [Token.pieces, Token.pieces, hsplit, hsplit']
  refine List.rel_filter (fun p p' hp => ?_) (.cons hp hps)
  simp [hp.eq_nil_iff]

end Token

/-! ## Statements -/

namespace Token.Renamed

variable {w : Text} {ts us : List Token}

theorem of_field {inside : Bool} (h : Renamed inside (.field w :: ts) us) :
    ∃ w' us', us = .field w' :: us' ∧ Text.lower w' = Text.lower w ∧ Renamed inside ts us' := by
  cases h with
  | same h => exact ⟨w, _, rfl, rfl, h⟩
  | field hw h => exact ⟨_, _, rfl, hw, h⟩

theorem of_argument (h : Renamed true (.bare w :: ts) us) :
    ∃ w' us', us = .bare w' :: us' ∧ Text.lower w' = Text.lower w ∧ Renamed true ts us' := by
  cases h with
  | same h => exact ⟨w, _, rfl, rfl, h⟩
  | argument hw h => exact ⟨_, _, rfl, hw, h⟩

end Token.Renamed

section
variable {α : Type} {Denotes : Token → α → Prop} {ts us : List Token} {as : List α}

/-- No value is renamed. -/
theorem Separated.eq_of_renamed {ls : List Literal} (h : Separated Literal.Written ts ls)
    (hus : Renamed false ts us) : us = ts := by
  induction h generalizing us with
  | one hl =>
    cases hl <;> (cases hus; rename_i hus; cases hus; rfl)
  | more hl _ ih =>
    cases hl <;> (cases hus; rename_i hus; cases hus; rename_i hus; rw [ih hus])

/-- Renamed arguments denote the same. -/
theorem Separated.renamed (h : Separated Denotes ts as)
    (hbare : ∀ t a, Denotes t a → ∃ w, t = .bare w)
    (hlower : ∀ w w' a, Text.lower w' = Text.lower w → Denotes (.bare w) a → Denotes (.bare w') a)
    (hus : Renamed true (ts ++ [.close]) us) :
    ∃ ts', us = ts' ++ [.close] ∧ Separated Denotes ts' as := by
  induction h generalizing us with
  | one ha =>
    obtain ⟨w, rfl⟩ := hbare _ _ ha
    obtain ⟨w', rest, rfl, hw, hrest⟩ := hus.of_argument
    cases hrest with
    | same hlast =>
      cases hlast
      exact ⟨[.bare w'], rfl, .one (hlower w w' _ hw ha)⟩
  | more ha _ ih =>
    obtain ⟨w, rfl⟩ := hbare _ _ ha
    obtain ⟨w', rest, rfl, hw, hrest⟩ := hus.of_argument
    cases hrest with
    | same hmore =>
      obtain ⟨ts', rfl, hs⟩ := ih hmore
      exact ⟨.bare w' :: .comma :: ts', rfl, .more (hlower w w' _ hw ha) hs⟩

/-- A statement is written with names in either case. -/
theorem Statement.Written.renamed {s : Statement} (h : Written ts s) (hus : Renamed false ts us) :
    Written us s := by
  cases h with
  | unary htarget ha =>
    obtain ⟨w', rest, rfl, hw, hrest⟩ := hus.of_field
    cases hrest with
    | same hlast =>
      cases hlast
      exact .unary (Target.read_eq_ok_of_lower hw htarget) ha
  | compared htarget ha hs =>
    obtain ⟨w', rest, rfl, hw, hrest⟩ := hus.of_field
    cases hrest with
    | same hvalues =>
      rw [hs.eq_of_renamed hvalues]
      exact .compared (Target.read_eq_ok_of_lower hw htarget) ha hs
  | columns hs =>
    cases hus with
    | same hrest =>
      obtain ⟨ts', rfl, hs'⟩ := hs.renamed Query.exists_bare_of_target
        (fun _ _ _ => Target.Written.of_lower) hrest
      exact .columns hs'
  | sort hs =>
    cases hus with
    | same hrest =>
      obtain ⟨ts', rfl, hs'⟩ := hs.renamed Query.exists_bare_of_key
        (fun _ _ _ => SortKey.Written.of_lower) hrest
      exact .sort hs'
  | limit hs =>
    cases hus with
    | same hrest =>
      obtain ⟨ts', rfl, hs'⟩ := hs.renamed Query.exists_bare_of_count
        (fun _ _ _ => Page.CountWritten.of_lower) hrest
      exact .limit hs'
  | limitOffset hs =>
    cases hus with
    | same hrest =>
      obtain ⟨ts', rfl, hs'⟩ := hs.renamed Query.exists_bare_of_count
        (fun _ _ _ => Page.CountWritten.of_lower) hrest
      exact .limitOffset hs'

theorem Statement.forall₂_written_of_renamed {ps ps' : List (List Token)} {ss : List Statement}
    (h : List.Forall₂ (Renamed false) ps ps') (hws : List.Forall₂ Written ps ss) :
    List.Forall₂ Written ps' ss := by
  induction h generalizing ss with
  | nil => exact hws
  | cons hp _ ih =>
    cases hws with
    | cons hw hws => exact .cons (hw.renamed hp) (ih hws)

end

/-! ## Texts -/

namespace Query

variable {settings : Settings} {text text' : Text} {ts : List Located} {q : Query}

/-- A text in another case asks for the same query. -/
theorem parse_of_recased (h : tokenize text = .ok ts) (hr : Recased text ts text')
    (hq : parse settings text = .ok q) : parse settings text' = .ok q := by
  have hsize : Text.byteSize text' = Text.byteSize text := by
    rw [← Text.byteSize_lower, hr.letters, Text.byteSize_lower]
  have hblank : (Text.trim text').isEmpty = (Text.trim text).isEmpty := by
    have htrim : Text.lower (Text.trim text') = Text.lower (Text.trim text) := by
      rw [← Text.trim_lower, hr.letters, Text.trim_lower]
    rw [← List.isEmpty_map (f := Char.toLower), ← Text.lower, htrim, Text.lower, List.isEmpty_map]
  rw [parse_eq_ok_iff] at hq ⊢
  rw [hsize, hblank]
  obtain ⟨hlength, hq⟩ := hq
  refine ⟨hlength, ?_⟩
  split
  · rename_i hempty
    rwa [if_pos hempty] at hq
  rename_i hempty
  rw [if_neg hempty] at hq
  obtain ⟨_, ss, hts, hws, hvalues, hclauses, hu, rfl⟩ := hq
  obtain rfl := Except.ok.inj (hts.symm.trans (tokens?_of_tokenize h))
  obtain ⟨ts', h', hrenamed⟩ := renamed_of_recased h hr
  exact ⟨_, ss, tokens?_of_tokenize h', Statement.forall₂_written_of_renamed hrenamed.pieces hws,
    hvalues, hclauses, hu, rfl⟩

/-- **Names are read in either case.**  A text that is a query asks for the same query when letters
    of its fields, operators, directives and their arguments are written in the other case; and so
    it has the same plan and the same filter for every entity. -/
theorem parse_recased (h : tokenize text = .ok ts) (hr : Recased text ts text')
    (hq : parse settings text = .ok q) :
    parse settings text' = .ok q ∧
      ∀ (S : Schema) (e : S.Entity) (planned : Settings),
        ((parse settings text').mapError Error.parse >>= Plan.build (S := S) (e := e) planned) =
            ((parse settings text).mapError Error.parse >>= Plan.build planned) ∧
          ((parse settings text').mapError Error.parse >>= fun q =>
              Filter.build (S := S) (e := e) planned.wildcard q.criteria) =
            ((parse settings text).mapError Error.parse >>= fun q =>
              Filter.build planned.wildcard q.criteria) := by
  have hsame := parse_of_recased h hr hq
  refine ⟨hsame, fun S e planned => ?_⟩
  rw [hsame, hq]
  exact ⟨rfl, rfl⟩

/-- A sort key, its directive, a field and its operator in the other case, and a value as it was. -/
theorem parse_recased_criterion :
    ∃ q, parse .standard "sort(-a)&b=eq=C".toList = .ok q ∧
      parse .standard "SORT(-A)&B=Eq=C".toList = .ok q := by
  have h : tokenize "sort(-a)&b=eq=C".toList = .ok [⟨.directive "sort".toList, 0, 5⟩,
      ⟨.bare ['-', 'a'], 5, 7⟩, ⟨.close, 7, 8⟩, ⟨.separator, 8, 9⟩, ⟨.field ['b'], 9, 10⟩,
      ⟨.operator .equal, 10, 14⟩, ⟨.bare ['C'], 14, 15⟩] := by decide +kernel
  have hargument : Encloses [.directive "sort".toList] := ⟨[], _, [], rfl, List.forall_mem_nil _⟩
  have hr : Recased "sort(-a)&b=eq=C".toList [⟨.directive "sort".toList, 0, 5⟩,
      ⟨.bare ['-', 'a'], 5, 7⟩, ⟨.close, 7, 8⟩, ⟨.separator, 8, 9⟩, ⟨.field ['b'], 9, 10⟩,
      ⟨.operator .equal, 10, 14⟩, ⟨.bare ['C'], 14, 15⟩] "SORT(-A)&B=Eq=C".toList := by
    refine ⟨by decide, ?_⟩
    simp only [forall_split_cons]
    exact ⟨False.elim, fun hvalue => absurd hargument hvalue, False.elim, False.elim, False.elim,
      False.elim, fun _ => by decide, fun before _ after hnil => by simp at hnil⟩
  have hread : (parse .standard "sort(-a)&b=eq=C".toList).isOk = true := by decide +kernel
  cases hq : parse .standard "sort(-a)&b=eq=C".toList with
  | error e =>
    rw [hq] at hread
    cases hread
  | ok q => exact ⟨q, rfl, (parse_recased h hr hq).1⟩

end Query

end ResourceQuery
