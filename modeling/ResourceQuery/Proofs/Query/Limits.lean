/-
  Resource queries — canonical texts and the limits.

  * `Token.size`: the bytes that a token takes up at least; the tokens of a text take up no more
    than the text (`sum_size_ofContents_le`).
  * `Statement.Written.byteSize_render_le`: what a clause is rendered as is at most two and a
    half times as long as its tokens.
  * `parse_render_same_limits`: the text that a query is rendered as keeps within every limit
    that the query has been read with, but the one on the length: signs of sort keys, quotes and
    escapes make it longer than what has been read.
-/
import Mathlib.Algebra.Order.BigOperators.Group.List
import Mathlib.Algebra.Order.Group.Nat
import ResourceQuery.Proofs.Query.RoundTrip
import ResourceQuery.Proofs.Token.Tiling

namespace ResourceQuery

open Outcome Token

/-! ## Tokens -/

namespace Token

/-- The bytes that a token takes up at least. -/
def size : Token → Nat
  | field path => Text.byteSize path
  | operator op => Text.byteSize op.symbol.toList
  | directive name => Text.byteSize name + 1
  | quoted text => Text.byteSize text + 2
  | bare text => Text.byteSize text
  | comma => 1
  | close => 1
  | separator => 1

theorem byteSize_of_unescapes {s t : Text} (h : Quoted.Unescapes s t) :
    Text.byteSize t ≤ Text.byteSize s := by
  induction h with
  | nil => rfl
  | plain _ _ ih => exact Nat.add_le_add_left ih _
  | escaped _ ih => exact (Nat.add_le_add_left ih _).trans (Nat.le_add_left _ _)

/-- What a token is written as takes up its size. -/
theorem ReadFrom.size_le {t : Token} {s : Text} (h : t.ReadFrom s) : t.size ≤ Text.byteSize s := by
  cases h with
  | field => exact le_rfl
  | bare => exact le_rfl
  | @operator op letters hletters =>
    rw [size, toList_symbol, ← hletters, Text.byteSize_cons, Text.byteSize_cons, Text.byteSize_append,
      Text.byteSize_append, Text.byteSize_lower]
  | @directive name =>
    have hmark : Text.byteSize ['('] = 1 := rfl
    rw [size, Text.byteSize_append, Text.byteSize_lower, hmark]
  | @quoted quote s t hquote _ hunescapes =>
    have hle := byteSize_of_unescapes hunescapes
    have hpos := quote.utf8Size_pos
    simp only [size, Text.byteSize_cons, Text.byteSize_append, Text.byteSize_nil]
    omega
  | comma => exact le_rfl
  | close => exact le_rfl
  | semicolon => exact le_rfl
  | ampersand => exact le_rfl

/-- The tokens of a text take up no more than the text. -/
theorem sum_size_ofContents_le {t : Text} {named : Bool} {ts : List Token}
    (h : ofContents named (Lexeme.contents t) = .ok ts) : (ts.map size).sum ≤ Text.byteSize t := by
  induction t using Lexeme.scan_induction generalizing named ts with
  | nil =>
    rw [Lexeme.contents_nil] at h
    cases h
    exact Nat.zero_le _
  | gap c t hgap ih =>
    rw [Lexeme.contents_gap hgap] at h
    exact (ih h).trans (Nat.le_add_left _ _)
  | lexeme c t hgap ih =>
    rw [Lexeme.contents_cons hgap] at h
    obtain ⟨token, us, htoken, hus, rfl⟩ := ofContents_cons h
    have hfront := (readFrom_ofLexeme (Lexeme.fits_classify c t) htoken).size_le
    have hrest := ih hus
    have hsize : Text.byteSize (c :: t) = Text.byteSize (c :: t.take (Lexeme.classify c t).2) +
        Text.byteSize (t.drop (Lexeme.classify c t).2) := by
      rw [← Text.byteSize_append, List.cons_append, List.take_append_drop]
    rw [List.map_cons, List.sum_cons, hsize]
    exact Nat.add_le_add hfront hrest

end Token

/-! ## What tokens are rendered as

What is rendered for an argument, with a mark beside it, is at most two and a half times as long
as the argument with its comma.  A word of a single backslash comes up to that: it is rendered
between quotes and with a second backslash. -/

section
variable {t : Token}

theorem Literal.byteSize_render_ofQuoted_le (t : Text) :
    Text.byteSize (ofQuoted t).render ≤ 2 * Text.byteSize t + 2 := by
  rw [render_ofQuoted]
  split
  · exact Quoted.byteSize_encode_le t
  · omega

theorem Literal.Written.byteSize_render_le {l : Literal} (h : Literal.Written t l)
    (hword : ∀ w, t = .bare w → Lexeme.IsWord w) :
    2 * (Text.byteSize l.render + 1) ≤ 5 * (t.size + 1) := by
  cases h with
  | quoted t =>
    have := Literal.byteSize_render_ofQuoted_le t
    rw [size]
    omega
  | bare w =>
    have hpos : 0 < Text.byteSize w := Text.byteSize_pos (hword w rfl).1
    rw [size]
    rcases Literal.ofWord_eq_or_render_eq w with hquoted | hrender
    · have := Literal.byteSize_render_ofQuoted_le w
      rw [hquoted]
      omega
    · rw [hrender]
      omega

theorem Target.byteSize_text_le {w : Text} {target : Target} (h : Target.read w = .ok target) :
    Text.byteSize target.text ≤ Text.byteSize w := by
  unfold Target.read at h
  split at h
  · cases h
  · cases h
    rw [text, ← Text.lower_joinWith, Text.joinWith_split, Text.byteSize_lower]
    exact Text.byteSize_le_of_sublist (Text.trim_sublist w)

theorem Target.Written.byteSize_text_le {target : Target} (h : Target.Written t target) :
    2 * (Text.byteSize target.text + 1) ≤ 5 * (t.size + 1) := by
  obtain ⟨h⟩ := h
  have := Target.byteSize_text_le h
  rw [size]
  omega

theorem SortKey.byteSize_render (k : SortKey) :
    Text.byteSize k.render = Text.byteSize k.target.text + 1 := by
  obtain ⟨target, direction⟩ := k
  cases direction <;> exact Nat.add_comm _ _

/-- A key without a sign gets one. -/
theorem SortKey.Written.byteSize_render_le {k : SortKey} (h : SortKey.Written t k) :
    2 * (Text.byteSize k.render + 1) ≤ 5 * (t.size + 1) := by
  rw [SortKey.byteSize_render]
  cases h with
  | unsigned _ _ h =>
    have := Target.byteSize_text_le h
    simp only [size]
    omega
  | plus h | minus h =>
    have := Target.byteSize_text_le h
    simp only [size, Text.byteSize_cons]
    omega

theorem Page.CountWritten.byteSize_digits_le {n : UInt64} (h : Page.CountWritten t n) :
    2 * (Text.byteSize (Numeral.digits n.toNat) + 1) ≤ 5 * (t.size + 1) := by
  obtain ⟨h⟩ := h
  have := Numeral.byteSize_digits_le h
  rw [size]
  omega

end

/-- What tokens with commas between them are rendered as, where `f` renders each. -/
theorem Separated.byteSize_joinWith_le {α : Type} {Denotes : Token → α → Prop} {f : α → Text}
    {ts : List Token} {as : List α} (h : Separated Denotes ts as)
    (hf : ∀ t ∈ ts, ∀ a, Denotes t a → 2 * (Text.byteSize (f a) + 1) ≤ 5 * (t.size + 1)) :
    2 * (Text.byteSize (Text.joinWith [','] (as.map f)) + 1) ≤ 5 * ((ts.map size).sum + 1) := by
  have hsum : 2 * (as.map fun a => Text.byteSize (f a) + 1).sum ≤ 5 * ((ts.map size).sum + 1) ∧
      as.map f ≠ [] := by
    induction h with
    | one h => simpa using hf _ List.mem_cons_self _ h
    | more h _ ih =>
      have hfirst := hf _ List.mem_cons_self _ h
      have hrest := (ih fun t ht => hf t (by simp [ht])).1
      have hcomma : Token.comma.size = 1 := rfl
      simp only [List.map_cons, List.sum_cons, hcomma] at hrest ⊢
      exact ⟨by omega, List.cons_ne_nil _ _⟩
  have hjoin := Text.byteSize_joinWith [','] hsum.2
  rw [List.map_map] at hjoin
  exact (congrArg (2 * ·) hjoin).trans_le hsum.1

/-! ## What clauses are rendered as -/

namespace Statement

theorem two_le_byteSize_symbol (op : Operator) : 2 ≤ Text.byteSize op.symbol.toList := by
  cases op <;> decide

/-- A directive is rendered with its name, its parentheses and its arguments. -/
theorem byteSize_renderDirective_le {name : String} {arguments : List Text} {ts : List Token}
    (h : 2 * (Text.byteSize (Text.joinWith [','] arguments) + 1) ≤ 5 * ((ts.map size).sum + 1)) :
    2 * (Text.byteSize (Query.renderDirective name arguments) + 1) ≤
      5 * ((.directive name.toList :: ts ++ [Token.close]).map size).sum := by
  have hopen : ('(').utf8Size = 1 := rfl
  have hclose : (')').utf8Size = 1 := rfl
  simp only [Query.renderDirective, Text.byteSize_append, Text.byteSize_cons, Text.byteSize_nil,
    List.map_append, List.map_cons, List.map_nil, List.sum_append, List.sum_cons, List.sum_nil,
    size, List.cons_append, hopen, hclose]
  omega

/-- An offset of zero is left out. -/
theorem byteSize_renderPage_le (p : Page) :
    Text.byteSize (Query.renderPage p) ≤ Text.byteSize (Query.renderDirective "limit"
      [Numeral.digits p.limit.toNat, Numeral.digits p.offset.toNat]) := by
  rw [Query.renderPage]
  split
  · simp only [Query.renderDirective, Text.joinWith, Text.byteSize_append, Text.byteSize_cons]
    omega
  · exact Nat.le_refl _

/-- What a clause is rendered as, with a separator after it, is at most two and a half times as
    long as its tokens. -/
theorem Written.byteSize_render_le {ts : List Token} {s : Statement} (h : Written ts s)
    (hwords : ∀ w, .bare w ∈ ts → Lexeme.IsWord w) :
    2 * (Text.byteSize s.render + 1) ≤ 5 * (ts.map size).sum := by
  cases h with
  | @unary path c hpath harity =>
    have htext := Target.byteSize_text_le hpath
    have hsymbol := two_le_byteSize_symbol c.operator
    simp only [render, Criterion.render, Query.literals_eq_nil harity, List.map_nil, Text.joinWith,
      Text.byteSize_append, Text.byteSize_nil, List.map_cons, List.sum_cons, List.sum_nil, size]
    omega
  | @compared path c ts hpath _ hliterals =>
    have htext := Target.byteSize_text_le hpath
    have hsymbol := two_le_byteSize_symbol c.operator
    have hvalues := hliterals.byteSize_joinWith_le fun t ht l hl =>
      hl.byteSize_render_le fun w hw => hwords w (by simp [← hw, ht])
    simp only [render, Criterion.render, Text.byteSize_append, List.map_cons, List.sum_cons, size]
    omega
  | columns htargets =>
    exact byteSize_renderDirective_le
      (htargets.byteSize_joinWith_le fun _ _ _ h => h.byteSize_text_le)
  | sort hkeys =>
    exact byteSize_renderDirective_le
      (hkeys.byteSize_joinWith_le fun _ _ _ h => h.byteSize_render_le)
  | limit hcounts =>
    exact byteSize_renderDirective_le (hcounts.byteSize_joinWith_le
      (f := fun n : UInt64 => Numeral.digits n.toNat) fun _ _ _ h => h.byteSize_digits_le)
  | @limitOffset ts n offset hcounts =>
    have hpage := Nat.add_le_add_right (byteSize_renderPage_le ⟨n, offset⟩) 1
    refine (Nat.mul_le_mul_left 2 hpage).trans ?_
    exact byteSize_renderDirective_le (hcounts.byteSize_joinWith_le
      (f := fun n : UInt64 => Numeral.digits n.toNat) fun _ _ _ h => h.byteSize_digits_le)

/-- What clauses are rendered as, with a separator after each. -/
theorem sum_byteSize_render_le {ps : List (List Token)} {ss : List Statement}
    (h : List.Forall₂ Written ps ss) (hwords : ∀ w, .bare w ∈ ps.flatten → Lexeme.IsWord w) :
    2 * (ss.map fun s => Text.byteSize s.render + 1).sum ≤ 5 * (ps.flatten.map size).sum := by
  induction h with
  | nil => exact Nat.le_refl _
  | cons h _ ih =>
    have hfirst := h.byteSize_render_le fun w hw => hwords w (by simp [hw])
    have hrest := ih fun w hw => hwords w (by rw [List.flatten_cons]; simp [hw])
    simp only [List.map_cons, List.sum_cons, List.flatten_cons, List.map_append, List.sum_append]
    omega

end Statement

namespace Query

/-- A query is rendered with a separator after each clause but the last. -/
theorem byteSize_render_le (q : Query) :
    q.render.byteSize ≤ (q.statements.map fun s => s.render.byteSize + 1).sum := by
  rw [render, renderClauses_eq]
  by_cases hne : q.statements.map Statement.render = []
  · rw [hne]
    exact Nat.zero_le _
  · have hjoin := Text.byteSize_joinWith [';'] hne
    rw [List.map_map] at hjoin
    exact (Nat.le_add_right _ _).trans hjoin.le

/-- The text that a query is rendered as is at most two and a half times as long as the text
    that it has been read from. -/
theorem byteSize_render_of_parse_le {settings : Settings} {text : Text} {q : Query}
    (h : parse settings text = .ok q) : 2 * q.render.byteSize ≤ 5 * text.byteSize := by
  obtain ⟨ts, ss, hts, hwritten, -, -, rfl⟩ := exists_statements_of_parse h
  have hpieces := flatten_pieces_sublist ts
  have hrender := byteSize_render_le (ofStatements ss)
  have hstatements := sum_statements_ofStatements_le (fun s => s.render.byteSize + 1) ss
  have hsum := Statement.sum_byteSize_render_le hwritten fun w hw => by
    have hmem : .bare w ∈ ts := hpieces.subset hw
    exact isWord_of_bare (hts.resolve_left (List.ne_nil_of_mem hmem)) hmem
  have hflatten : ((pieces ts).flatten.map size).sum ≤ (ts.map size).sum :=
    (hpieces.map size).sum_le_sum fun _ _ => Nat.zero_le _
  have htokens : (ts.map size).sum ≤ text.byteSize := by
    rcases hts with rfl | hts
    · exact Nat.zero_le _
    · exact sum_size_ofContents_le hts
  omega

/-- The text that a query is rendered as keeps within the limits on clauses and on values: it is
    read as the query again, unless it exceeds the limit on the length, and is refused for this
    alone if it does.  It is at most two and a half times as long as what has been read. -/
theorem parse_render_same_limits {settings : Settings} {text : Text} {q : Query}
    (h : parse settings text = .ok q) :
    parse settings q.render =
        (if q.render.byteSize ≤ settings.maxLength then .ok q
          else .error { cause := .tooLong q.render.byteSize settings.maxLength }) ∧
      2 * q.render.byteSize ≤ 5 * text.byteSize := by
  refine ⟨?_, byteSize_render_of_parse_le h⟩
  split
  · rename_i hlength
    obtain ⟨hreread, hvalues, hclauses⟩ := rereadAs_of_parse h
    exact parse_render hreread hlength hvalues hclauses
  · rename_i hlength
    rw [parse, if_pos (Nat.lt_of_not_le hlength)]

/-- Quotes that are left out, quotes that stay and a sign that is added. -/
theorem parse_render_same_limits_sorted :
    ∃ q, parse .standard "name=in='a','b c'&sort(age)".toList = .ok q ∧
      q.render = "name=in=a,\"b c\";sort(+age)".toList ∧ parse .standard q.render = .ok q ∧
      2 * q.render.byteSize ≤ 5 * 27 := by
  have hrender : (parse .standard "name=in='a','b c'&sort(age)".toList).map render =
      .ok "name=in=a,\"b c\";sort(+age)".toList := by decide +kernel
  cases h : parse .standard "name=in='a','b c'&sort(age)".toList with
  | error e => rw [h] at hrender; cases hrender
  | ok q =>
    rw [h] at hrender
    obtain ⟨hparse, hsize⟩ := parse_render_same_limits h
    have hlength : q.render.byteSize ≤ Settings.standard.maxLength := by
      rw [Except.ok.inj hrender]
      decide
    rw [if_pos hlength] at hparse
    exact ⟨q, rfl, Except.ok.inj hrender, hparse, hsize⟩

/-- A sort key without a sign gets one, and with it the text exceeds the limit. -/
theorem exists_render_too_long :
    ∃ q, parse { Settings.standard with maxLength := 7 } "sort(a)".toList = .ok q ∧
      parse { Settings.standard with maxLength := 7 } q.render =
        .error { cause := .tooLong 8 7 } :=
  ⟨{ sort := [⟨⟨["a".toList], by decide⟩, .ascending⟩] }, by decide +kernel, by decide +kernel⟩

end Query

end ResourceQuery
