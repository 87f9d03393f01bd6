/-
  Resource queries — what a property of strings sees.

  * `Quoted.Spelling`: how a string is written: between quotes, with escapes, or as a word.
  * `Query.Asks`: a text asks for strings: it names a property and an operator, and has the
    strings between quotes or as words, with commas between them.
  * `asks_of_spelling`: texts that are put together from spellings ask for their strings.
  * `parse_of_asks`: what such a text is read as sees the strings as they are.
  * `build_of_asks`: so all texts that ask for the same strings are built into one filter, with
    exactly these strings as its values.
-/
import ResourceQuery.Proofs.Filter.Equal
import ResourceQuery.Proofs.Filter.Single

namespace ResourceQuery

open Outcome Token

/-! ## Spellings -/

/-- Whether a text is how a string is written: between quotes, with escapes that stand for the
    characters of the string, or as it is when it is a word. -/
inductive Quoted.Spelling : Text → Text → Prop
  | quoted {quote : Char} {s inside : Text} : Lexeme.isQuote quote → Inside quote inside →
      Unescapes inside s → Spelling s (quote :: (inside ++ [quote]))
  | word {s : Text} : Lexeme.IsWord s → Spelling s s

/-- A string is written between double quotes by escaping it. -/
theorem Quoted.spelling_encode (s : Text) : Spelling s (encode s) := by
  have h := unescapes_unescape (inside_escape s)
  rw [unescape_escape] at h
  exact .quoted rfl (inside_escape s) h

namespace Token

/-- Whether a token stands for a string: the token of the string between quotes, or that of the
    string as a word. -/
inductive Says : Token → Text → Prop
  | quoted (s : Text) : Says (.quoted s) s
  | bare (s : Text) : Says (.bare s) s

theorem exists_says_of_spelling {s w : Text} (h : Quoted.Spelling s w) :
    ∃ t, Says t s ∧ Spells w [t] := by
  cases h with
  | quoted hquote hinside hs => exact ⟨_, .quoted s, spells_quoted hquote hinside hs⟩
  | word hword => exact ⟨_, .bare s, spells_word hword⟩

end Token

namespace Literal

/-- A property of strings sees a word as it was written, whatever it denotes. -/
theorem text_ofWord (w : Text) : (ofWord w).text = w := by
  by_cases h : w = (Value.infer w).literal
  · simp [ofWord, text, ← h]
  · simp [ofWord, text, h]

theorem exists_written_of_says {t : Token} {s : Text} (h : Says t s) :
    ∃ l, Written t l ∧ l.text = s := by
  cases h with
  | quoted s => exact ⟨_, .quoted s, rfl⟩
  | bare s => exact ⟨_, .bare s, text_ofWord s⟩

/-- Tokens that stand for strings are written for literals with these texts. -/
theorem exists_separated_of_says {ts : List Token} {ss : List Text} (h : Separated Says ts ss) :
    ∃ ls, Separated Written ts ls ∧ ls.map text = ss := by
  induction h with
  | one h =>
    obtain ⟨l, hl, rfl⟩ := exists_written_of_says h
    exact ⟨[l], .one hl, rfl⟩
  | more h _ ih =>
    obtain ⟨l, hl, rfl⟩ := exists_written_of_says h
    obtain ⟨ls, hls, rfl⟩ := ih
    exact ⟨l :: ls, .more hl hls, rfl⟩

end Literal

/-- Equality, inequality, patterns and lists do not order, and take at least one value. -/
theorem Operator.takes_of_mem {op : Operator}
    (hop : op ∈ [.equal, .notEqual, .like, .oneOf, .noneOf]) :
    op.isOrdering = false ∧ ¬ op.arity.accepts 0 := by
  revert hop
  cases op <;> decide

/-! ## Texts -/

/-- A name of a target is not blank. -/
theorem Target.not_isBlank_of_read {name : Text} {target : Target}
    (h : Target.read name = .ok target) : ¬ ∀ c ∈ name, Text.isBlank c := by
  rw [← Text.trim_eq_nil]
  intro hnil
  unfold Target.read at h
  split at h
  · cases h
  · rename_i hfault
    rw [hnil] at hfault
    cases hfault

namespace Query

/-- Whether a text asks for strings: it has a name of the target, the operator, and the strings
    between quotes or as words, with commas between them. -/
def Asks (text : Text) (target : Target) (op : Operator) (ss : List Text) : Prop :=
  ∃ name us ts, tokenize text = .ok ts ∧ ofLocated ts = .field name :: .operator op :: us ∧
    Target.read name = .ok target ∧ Separated Says us ss

/-- A text that is put together from a name, an operator and spellings of strings asks for the
    strings. -/
theorem asks_of_spelling {name : Text} {target : Target} {op : Operator} {ss ws : List Text}
    (hname : Lexeme.IsWord name) (hread : Target.read name = .ok target)
    (hws : List.Forall₂ Quoted.Spelling ss ws) (hne : ss ≠ []) :
    Asks (name ++ op.symbol.toList ++ Text.joinWith [','] ws) target op ss := by
  have htokens : List.Forall₂ (fun w s => ∃ t, Says t s ∧ Spells w [t]) ws ss := by
    refine (List.Forall₂.imp ?_ hws).flip
    exact fun s w h => exists_says_of_spelling h
  have hws' : ws ≠ [] := by
    rintro rfl
    exact hne (List.forall₂_nil_right_iff.1 hws)
  obtain ⟨us, hsays, hspells⟩ := exists_separated (f := id) htokens hws'
  rw [List.map_id] at hspells
  have hreads := reads_criterion hname op hspells.reads
  obtain ⟨ts, hts, hlocated⟩ := exists_tokenize_iff.2 (hreads false)
  exact ⟨name, us, ts, hts, hlocated, hread, hsays⟩

/-- A text that is written for a single criterion is read as this criterion. -/
theorem parse_of_written {settings : Settings} {text : Text} {ts : List Token} {c : Criterion}
    (htokens : tokens? text = .ok ts) (hwritten : Statement.Written ts (.criterion c))
    (hblank : ¬ ∀ ch ∈ text, Text.isBlank ch) (hlength : text.byteSize ≤ settings.maxLength)
    (hclauses : 1 ≤ settings.maxClauses) (hvalues : c.literals.length ≤ settings.maxValues) :
    parse settings text = .ok { criteria := [c] } := by
  rw [parse_eq_ok_iff, if_neg (by rwa [List.isEmpty_iff, Text.trim_eq_nil])]
  have hpieces : pieces ts = [ts] := by
    have hpiece : ∀ us ∈ [ts], us ≠ [] ∧ .separator ∉ us := by
      intro us hus
      rw [List.mem_singleton.1 hus]
      exact ⟨hwritten.ne_nil, hwritten.separator_not_mem⟩
    have h := pieces_intercalate hpiece
    rwa [List.intercalate_singleton] at h
  refine ⟨hlength, ts, [.criterion c], htokens, ?_, ?_, hclauses, ?_, rfl⟩
  · rw [hpieces]
    exact .cons hwritten .nil
  · intro s hs
    rw [List.mem_singleton.1 hs]
    exact hvalues.trans (le_max_right _ _)
  · show Statement.Unrepeated ([] ++ [.criterion c])
    rw [Statement.unrepeated_criterion]
    exact unrepeated_nil

/-- A text that asks for strings is read as a criterion whose literals have these texts. -/
theorem parse_of_asks {settings : Settings} {text : Text} {target : Target} {op : Operator}
    {ss : List Text} (h : Asks text target op ss) (harity : op.arity ≠ .zero)
    (hcount : op.arity.accepts ss.length) (hlength : text.byteSize ≤ settings.maxLength)
    (hclauses : 1 ≤ settings.maxClauses) (hvalues : ss.length ≤ settings.maxValues) :
    ∃ c, parse settings text = .ok { criteria := [c] } ∧ c.target = target ∧ c.operator = op ∧
      c.literals.map Literal.text = ss := by
  obtain ⟨name, us, located, hlocated, hts, hread, hsays⟩ := h
  obtain ⟨ls, hls, rfl⟩ := Literal.exists_separated_of_says hsays
  rw [List.length_map] at hcount hvalues
  have htokens := tokens?_of_tokenize hlocated
  rw [hts] at htokens
  have hblank : ¬ ∀ ch ∈ text, Text.isBlank ch := by
    intro hall
    have hmem := mem_contents_of_word htokens (.inr List.mem_cons_self)
    exact Target.not_isBlank_of_read hread fun ch hch =>
      hall ch (Lexeme.subset_of_mem_contents hmem hch)
  refine ⟨⟨target, op, ls, hcount⟩, ?_, rfl, rfl, rfl⟩
  have hwritten := Statement.Written.compared (c := ⟨target, op, ls, hcount⟩) hread harity hls
  exact parse_of_written htokens hwritten hblank hlength hclauses hvalues

end Query

namespace Filter

open Query

variable {S : Schema} {e : S.Entity} {path : Path S e} {target : Target} {op : Operator}

/-- A criterion on a property of strings sees the texts of its literals. -/
theorem build_of_text {wildcard : Option Char} {c : Criterion}
    (hpath : S.resolve e c.target = .ok path) (htype : path.dataType? = some .string)
    (hop : c.operator.isOrdering = false) :
    build wildcard [c] = .ok
      (single ⟨c.target, some .string, path.nullable, c.operator,
          (c.literals.map Literal.text).map .string⟩
        (fieldTest wildcard path .string c.operator
          ((c.literals.map Literal.text).map .string))) := by
  have hbetween : c.operator ≠ .between := by
    intro h
    rw [h] at hop
    cases hop
  refine (build_field_eq_ok hpath htype).2 ⟨⟨fun h => ?_, fun _ => rfl⟩, _,
    mapM_eq_ok.1 (mapM_convert_string path c.literals), _, if_neg hbetween, rfl⟩
  rw [hop] at h
  cases h

/-- **A property of strings sees exactly what was written.**  All texts that ask for the same
    strings of such a property, by equality, inequality, a pattern or a list, are read, and built
    into one filter, whose values are these strings character for character.  Among these texts are
    all that write a name of the property, the operator and the strings one after the other, each
    string between quotes with escapes, or as it is where it is a word; and every string can be
    written between quotes. -/
theorem build_of_asks (hpath : S.resolve e target = .ok path)
    (htype : path.dataType? = some .string)
    (hop : op ∈ [.equal, .notEqual, .like, .oneOf, .noneOf]) {ss : List Text}
    (hcount : op.arity.accepts ss.length) (wildcard : Option Char) :
    ∃ f : Filter S e,
      f.expression = .compare ⟨target, some .string, path.nullable, op, ss.map .string⟩ ∧
      (∀ (settings : Settings) (text : Text), Asks text target op ss →
        text.byteSize ≤ settings.maxLength → 1 ≤ settings.maxClauses →
        ss.length ≤ settings.maxValues →
        ∃ q, parse settings text = .ok q ∧ build wildcard q.criteria = .ok f) ∧
      (∀ (name : Text) (ws : List Text), Lexeme.IsWord name → Target.read name = .ok target →
        List.Forall₂ Quoted.Spelling ss ws →
        Asks (name ++ op.symbol.toList ++ Text.joinWith [','] ws) target op ss) ∧
      ∀ s, Quoted.Spelling s (Quoted.encode s) := by
  obtain ⟨hordering, hnone⟩ := Operator.takes_of_mem hop
  have harity : op.arity ≠ .zero := by
    intro hzero
    rw [hzero] at hnone
    exact hnone rfl
  have hne : ss ≠ [] := by
    rintro rfl
    exact hnone hcount
  refine ⟨single _ (fieldTest wildcard path .string op (ss.map .string)), rfl, ?_, ?_,
    Quoted.spelling_encode⟩
  · intro settings text hasks hlength hclauses hvalues
    obtain ⟨c, hparse, rfl, rfl, rfl⟩ :=
      parse_of_asks hasks harity hcount hlength hclauses hvalues
    exact ⟨_, hparse, build_of_text hpath htype hordering⟩
  · intro name ws hname hread hws
    exact asks_of_spelling hname hread hws hne

/-- Labels that are written in two ways: as words but for one, and between quotes. -/
theorem build_of_asks_labels : ∃ (f : Filter wares ()) (q q' : Query),
    f.expression = .compare ⟨label, some .string, false, .oneOf,
      ["007".toList, "1.50".toList, "a b".toList].map .string⟩ ∧
    parse .standard "Label=in=007,1.50,\"a b\"".toList = .ok q ∧ build none q.criteria = .ok f ∧
    parse .standard "label=in=\"007\",\"1.50\",\"a b\"".toList = .ok q' ∧
    build none q'.criteria = .ok f := by
  have hpath : wares.resolve () label = .ok ⟨label, .field (Field.of Prod.fst)⟩ := rfl
  have hcount : Operator.oneOf.arity.accepts ["007".toList, "1.50".toList, "a b".toList].length :=
    rfl
  obtain ⟨f, hf, hasked, hasks, hquoted⟩ := build_of_asks hpath rfl (by decide) hcount none
  have hwords := hasks "Label".toList _ (by decide) rfl
    (.cons (.word (by decide)) (.cons (.word (by decide))
      (.cons (hquoted _) .nil)))
  have hquotes := hasks "label".toList _ (by decide) rfl
    (.cons (hquoted _) (.cons (hquoted _) (.cons (hquoted _) .nil)))
  obtain ⟨q, hq, hbuild⟩ :=
    hasked .standard _ hwords (by decide) (by decide) (by decide)
  obtain ⟨q', hq', hbuild'⟩ :=
    hasked .standard _ hquotes (by decide) (by decide) (by decide)
  exact ⟨f, q, q', hf, hq, hbuild, hq', hbuild'⟩

end Filter

end ResourceQuery
