/-
  Resource queries — expressions told apart by their texts.

  * `Text.doubled_append_inj`: a text between single quotes ends where no other quote follows.
  * `Value.shownAlike_of_literal_eq`, `Value.quoted_append_inj`: two values of one type that are
    written the same are alike with the times that a clock shows, also at the front of a longer
    text.
  * `Operator.phrase`: what stands between the path and the values; no phrase begins another.
  * `Comparison.text_append_inj`: so are two comparisons on an entity that are written the same:
    the path fixes the type of the values, and so how they are written.
  * `Expression.same`: whether two expressions are equal leaf by leaf.
  * `Combined.same_of_text_eq`: filters whose expressions are written the same have the same
    expression, when a clock shows the times in it.
-/
import ResourceQuery.Proofs.Filter.Alike
import ResourceQuery.Proofs.Filter.Single
import ResourceQuery.Proofs.Filter.Typing
import ResourceQuery.Proofs.Query.Rereading

namespace ResourceQuery

open Outcome

/-! ## Fronts of texts -/

namespace Text

/-- Where a text goes on after characters of one kind with one of another kind, those characters
    are known. -/
theorem append_inj_of_all {p : Char → Bool} {s t u v : Text} (hs : ∀ c ∈ s, p c)
    (ht : ∀ c ∈ t, p c) (hu : ∀ c ∈ u.head?, ¬ p c) (hv : ∀ c ∈ v.head?, ¬ p c)
    (h : s ++ u = t ++ v) : s = t ∧ u = v := by
  have hnone {w : Text} (hw : ∀ c ∈ w.head?, ¬ p c) : w.takeWhile p = [] := by
    cases w with
    | nil => rfl
    | cons c w => exact List.takeWhile_cons_of_neg (hw c rfl)
  have htake := congrArg (List.takeWhile p) h
  rw [List.takeWhile_append_of_pos hs, List.takeWhile_append_of_pos ht, hnone hu, hnone hv,
    List.append_nil, List.append_nil] at htake
  exact ⟨htake, List.append_cancel_left (htake ▸ h)⟩

/-- A text with each single quote written twice. -/
def doubled (t : Text) : Text := t.flatMap fun c => if c = '\'' then ['\'', '\''] else [c]

theorem doubled_cons_quote (t : Text) : doubled ('\'' :: t) = '\'' :: '\'' :: doubled t := rfl

theorem doubled_cons {c : Char} (hc : c ≠ '\'') (t : Text) : doubled (c :: t) = c :: doubled t := by
  rw [doubled, List.flatMap_cons, if_neg hc]
  rfl

/-- Where no other quote follows the closing one, it is the closing one. -/
theorem doubled_append_inj {s t u v : Text} (hu : u.head? ≠ some '\'') (hv : v.head? ≠ some '\'')
    (h : doubled s ++ '\'' :: u = doubled t ++ '\'' :: v) : s = t ∧ u = v := by
  -- the closing quote is no quote of the other text, which would be followed by another
  have hclose {w x y : Text} {c : Char} (hx : x.head? ≠ some '\'') :
      '\'' :: x ≠ doubled (c :: w) ++ y := by
    intro h
    by_cases hc : c = '\''
    · rw [hc, doubled_cons_quote] at h
      injection h with _ h
      exact hx (h ▸ rfl)
    · rw [doubled_cons hc] at h
      injection h with h _
      exact hc h.symm
  induction s generalizing t with
  | nil =>
    cases t with
    | nil => exact ⟨rfl, (List.cons.inj h).2⟩
    | cons d t => exact absurd h (hclose hu)
  | cons c s ih =>
    cases t with
    | nil => exact absurd h.symm (hclose hv)
    | cons d t =>
      by_cases hc : c = '\'' <;> by_cases hd : d = '\''
      · rw [hc, hd, doubled_cons_quote, doubled_cons_quote] at h
        obtain ⟨hst, huv⟩ := ih (List.cons.inj (List.cons.inj h).2).2
        exact ⟨by rw [hc, hd, hst], huv⟩
      · rw [hc, doubled_cons_quote, doubled_cons hd] at h
        exact absurd (List.cons.inj h).1.symm hd
      · rw [hd, doubled_cons hc, doubled_cons_quote] at h
        exact absurd (List.cons.inj h).1 hc
      · rw [doubled_cons hc, doubled_cons hd] at h
        obtain ⟨hcd, htail⟩ := List.cons.inj h
        obtain ⟨hst, huv⟩ := ih htail
        exact ⟨by rw [hcd, hst], huv⟩

/-- Items with a separator between any two of them are known one by one when each of them is known
    in front of what can follow it, and the text goes on in another way than with a separator. -/
theorem joinWith_append_inj {α β : Type} {f : α → Text} {g : β → Text} {R : α → β → Prop}
    {P : Text → Prop} {sep t u : Text} {as : List α} {bs : List β}
    (hitems : ∀ a ∈ as, ∀ b ∈ bs, ∀ t u, P t → P u → f a ++ t = g b ++ u → R a b ∧ t = u)
    (hsep : ∀ x, P (sep ++ x) ∧ sep ++ x ≠ t ∧ sep ++ x ≠ u) (ht : P t) (hu : P u)
    (hne : as ≠ []) (hne' : bs ≠ [])
    (h : joinWith sep (as.map f) ++ t = joinWith sep (bs.map g) ++ u) :
    List.Forall₂ R as bs ∧ t = u := by
  have hjoin (p q : Text) (ps : List Text) (x : Text) :
      joinWith sep (p :: q :: ps) ++ x = p ++ (sep ++ (joinWith sep (q :: ps) ++ x)) := by
    simp [joinWith]
  induction as generalizing bs with
  | nil => exact absurd rfl hne
  | cons a as ih =>
    obtain ⟨b, bs, rfl⟩ := List.exists_cons_of_ne_nil hne'
    have hitem := hitems a List.mem_cons_self b List.mem_cons_self
    cases as with
    | nil =>
      cases bs with
      | nil =>
        obtain ⟨hab, htu⟩ := hitem t u ht hu h
        exact ⟨.cons hab .nil, htu⟩
      | cons b' bs =>
        simp only [List.map_cons, hjoin] at h
        exact absurd (hitem _ _ ht (hsep _).1 h).2.symm (hsep _).2.1
    | cons a' as =>
      cases bs with
      | nil =>
        simp only [List.map_cons, hjoin] at h
        exact absurd (hitem _ _ (hsep _).1 hu h).2 (hsep _).2.2
      | cons b' bs =>
        simp only [List.map_cons, hjoin] at h
        obtain ⟨hab, hrest⟩ := hitem _ _ (hsep _).1 (hsep _).1 h
        obtain ⟨hforall, htu⟩ := ih
          (fun a ha b hb => hitems a (List.mem_cons_of_mem _ ha) b (List.mem_cons_of_mem _ hb))
          (List.cons_ne_nil _ _) (List.cons_ne_nil _ _) (List.append_cancel_left hrest)
        exact ⟨.cons hab hforall, htu⟩

end Text

/-! ## Values -/

/-- Whether the values of a type stand between quotes. -/
def DataType.isQuoted : DataType → Bool
  | .string | .dateTime | .date => true
  | _ => false

/-- An instant that a clock shows is known by its text, also in a year with a sign: the date ends at
    the mark, and the time could follow any other date. -/
theorem Instant.eq_of_toText_eq {i j : Instant} (hi : i.IsClocked) (hj : j.IsClocked)
    (h : i.toText = j.toText) : i = j := by
  have hsplit (i : Instant) : i.toText =
      i.date.toText ++ 'T' :: (timeText i.second i.nano ++ ['Z']) := by simp [toText]
  have hmark (d : Date) : ∀ c ∈ d.toText, (c != 'T') = true := by
    have hnone : 'T' ∉ d.toText := (Calendar.hasOnly_date d).not_mem rfl (by decide)
    exact fun c hc => bne_iff_ne.2 (ne_of_mem_of_not_mem hc hnone)
  have hread {i : Instant} (hi : i.IsClocked) : read? (Date.epoch.toText ++ 'T' ::
      (timeText i.second i.nano ++ ['Z'])) = some { i with date := Date.epoch } := by
    have hplain : Calendar.IsPlainYear Date.epoch.year := by decide
    have hclock : IsClocked { i with date := Date.epoch } := hi
    rw [← hsplit { i with date := Date.epoch }, read?_toText_of_isClocked hclock]
    exact if_pos hplain
  rw [hsplit, hsplit] at h
  obtain ⟨hdate, htime⟩ := Text.append_inj_of_all (hmark i.date) (hmark j.date)
    (by rintro _ ⟨⟩; decide) (by rintro _ ⟨⟩; decide) h
  have hday : i.date = j.date := by
    rw [← Option.some_inj, ← i.date.read?_toText, hdate, j.date.read?_toText]
  have htimes : ({ i with date := Date.epoch } : Instant) = { j with date := Date.epoch } := by
    rw [← Option.some_inj, ← hread hi, htime, hread hj]
  obtain ⟨date, second, nano, _⟩ := i
  obtain ⟨date', second', nano', _⟩ := j
  simp only [mk.injEq] at hday htimes ⊢
  exact ⟨hday, htimes.2⟩

/-- Instants that are written the same are shown alike. -/
theorem Instant.shown_eq_of_toText_eq {i j : Instant} (h : i.toText = j.toText) :
    i.shown = j.shown := by
  refine eq_of_toText_eq i.isClocked_shown j.isClocked_shown ?_
  rw [toText_shown, toText_shown, h]

namespace Value

variable {v w : Value}

/-- Whether two values are alike with the times that a clock shows. -/
def ShownAlike (v w : Value) : Prop := v.shown.Alike w.shown

/-- Values of one type with one literal are alike with the times that a clock shows. -/
theorem shownAlike_of_literal_eq (htype : v.dataType = w.dataType) (hf : v.dataType ≠ .float)
    (h : v.literal = w.literal) : v.ShownAlike w := by
  cases v <;> cases w <;> cases htype
  case float => exact absurd rfl hf
  case string s t =>
    obtain rfl : s = t := h
    exact .refl _
  case integer i j =>
    have hread := (Numeral.readInt64?_ofInt i).symm.trans
      ((congrArg Numeral.readInt64? h).trans (Numeral.readInt64?_ofInt j))
    exact Option.some.inj hread ▸ .refl _
  case decimal a b =>
    have hreread := (infer_decimal a).symm.trans ((congrArg infer h).trans (infer_decimal b))
    refine .decimal ?_ h
    rw [← a.number_reread, decimal.inj hreread, b.number_reread]
  case boolean a b =>
    have hread := (infer_boolean a).symm.trans ((congrArg infer h).trans (infer_boolean b))
    exact hread ▸ .refl _
  case dateTime i j =>
    rw [ShownAlike, shown, shown, Instant.shown_eq_of_toText_eq h]
    exact .refl _
  case date a b =>
    have hread := a.read?_toText.symm.trans ((congrArg Date.read? h).trans b.read?_toText)
    exact Option.some.inj hread ▸ .refl _

/-- Whether a text can follow a value: it ends there, or goes on with a mark of the expression. -/
def EndsValue (t : Text) : Prop := ∀ c ∈ t.head?, c = ' ' ∨ c = ',' ∨ c = ')'

theorem endsValue_nil : EndsValue [] := fun _ h => nomatch h

theorem endsValue_cons {c : Char} (h : c = ' ' ∨ c = ',' ∨ c = ')') (t : Text) :
    EndsValue (c :: t) := by
  rintro _ ⟨⟩
  exact h

theorem endsValue_close (t : Text) : EndsValue (')' :: t) := endsValue_cons (.inr (.inr rfl)) t

/-- What follows a value is neither a quote nor a part of a word. -/
theorem EndsValue.head {t : Text} (h : EndsValue t) :
    t.head? ≠ some '\'' ∧ ∀ c ∈ t.head?, ¬ Lexeme.isWordChar c := by
  refine ⟨fun hquote => ?_, fun c hc => ?_⟩
  · rcases h _ hquote with h | h | h <;> cases h
  · rcases h c hc with rfl | rfl | rfl <;> decide

theorem quoted_eq (v : Value) : v.quoted =
    if v.dataType.isQuoted then '\'' :: (Text.doubled v.literal ++ ['\'']) else v.literal := by
  cases v <;> rfl

variable {type : DataType} {t u : Text}

/-- Values of one type that are written the same at the front of two texts are alike as a clock
    shows them, and the texts go on in the same way. -/
theorem quoted_append_inj (hv : v.dataType = type) (hw : w.dataType = type) (hf : type ≠ .float)
    (ht : EndsValue t) (hu : EndsValue u) (h : v.quoted ++ t = w.quoted ++ u) :
    v.ShownAlike w ∧ t = u := by
  have halike := shownAlike_of_literal_eq (hv.trans hw.symm) (hv ▸ hf)
  rw [quoted_eq, quoted_eq, hv, hw] at h
  split at h
  · have hinside : Text.doubled v.literal ++ '\'' :: t = Text.doubled w.literal ++ '\'' :: u := by
      simpa using h
    obtain ⟨hliteral, htail⟩ := Text.doubled_append_inj ht.head.1 hu.head.1 hinside
    exact ⟨halike hliteral, htail⟩
  · rename_i hquoted
    have hs : type ≠ .string := by
      rintro rfl
      exact hquoted rfl
    obtain ⟨hliteral, htail⟩ := Text.append_inj_of_all (isWord_literal (hv ▸ hf) (hv ▸ hs)).2
      (isWord_literal (hw ▸ hf) (hw ▸ hs)).2 ht.head.2 hu.head.2 h
    exact ⟨halike hliteral, htail⟩

/-- The same for lists up to their closing parentheses. -/
theorem joinWith_quoted_append_inj {vs ws : List Value} (hvs : ∀ v ∈ vs, v.dataType = type)
    (hws : ∀ w ∈ ws, w.dataType = type) (hf : type ≠ .float) (hne : vs ≠ []) (hne' : ws ≠ [])
    (h : Text.joinWith ", ".toList (vs.map quoted) ++ ')' :: t =
      Text.joinWith ", ".toList (ws.map quoted) ++ ')' :: u) :
    List.Forall₂ ShownAlike vs ws ∧ t = u := by
  refine (Text.joinWith_append_inj ?_ ?_ (endsValue_close t) (endsValue_close u) hne hne' h).imp id
    fun htu => (List.cons.inj htu).2
  · intro v hv w hw t u ht hu h
    exact quoted_append_inj (hvs v hv) (hws w hw) hf ht hu h
  · exact fun x => ⟨endsValue_cons (.inr (.inl rfl)) _, by rintro ⟨⟩, by rintro ⟨⟩⟩

end Value

/-! ## Operators -/

namespace Operator

/-- What stands between the path and the values of a comparison. -/
def phrase : Operator → Text
  | equal => " = ".toList
  | notEqual => " <> ".toList
  | greaterThan => " > ".toList
  | greaterThanOrEqual => " >= ".toList
  | lessThan => " < ".toList
  | lessThanOrEqual => " <= ".toList
  | like => " LIKE ".toList
  | oneOf => " IN (".toList
  | noneOf => " NOT IN (".toList
  | isNull => " IS NULL".toList
  | isNotNull => " IS NOT NULL".toList
  | between => " BETWEEN ".toList

/-- No phrase begins another one. -/
theorem eq_of_phrase_begins {a b : Operator} (h : a.phrase <+: b.phrase) : a = b := by
  have hall : ∀ a ∈ all, ∀ b ∈ all, a.phrase <+: b.phrase → a = b := by decide
  exact hall a a.mem_all b b.mem_all h

theorem phrase_append_inj {a b : Operator} {t u : Text} (h : a.phrase ++ t = b.phrase ++ u) :
    a = b ∧ t = u := by
  have hab : a = b := by
    rcases List.prefix_or_prefix_of_prefix (List.prefix_append a.phrase t)
      (h ▸ List.prefix_append b.phrase u) with hbegins | hbegins
    · exact eq_of_phrase_begins hbegins
    · exact (eq_of_phrase_begins hbegins).symm
  subst hab
  exact ⟨rfl, List.append_cancel_left h⟩

/-- The phrase begins with a blank. -/
theorem exists_phrase_eq (op : Operator) : ∃ t, op.phrase = ' ' :: t := by
  cases op <;> exact ⟨_, rfl⟩

end Operator

/-! ## Comparisons -/

namespace Comparison

/-- What follows the phrase of the operator. -/
def operandText (c : Comparison) : Text :=
  match c.operator.arity with
  | .zero => []
  | .one => c.firstText
  | .several => Text.joinWith ", ".toList (c.values.map Value.quoted) ++ [')']
  | .two => c.firstText ++ " AND ".toList ++ c.secondText

theorem conditionText_eq (c : Comparison) :
    c.conditionText = c.operator.phrase ++ c.operandText := by
  rw [conditionText, operandText]
  cases h : c.operator with
  | between =>
    show " BETWEEN ".toList ++ c.firstText ++ " AND ".toList ++ c.secondText =
      " BETWEEN ".toList ++ (c.firstText ++ " AND ".toList ++ c.secondText)
    rw [List.append_assoc, List.append_assoc, List.append_assoc]
  | _ => rfl

/-- A comparison with the times that a clock shows. -/
def shown (c : Comparison) : Comparison := { c with values := c.values.map Value.shown }

theorem shown_eq_self {c : Comparison} (h : ∀ v ∈ c.values, v.IsClocked) : c.shown = c := by
  have hvalues : c.values.map Value.shown = c.values := by
    rw [List.map_congr_left fun v hv => Value.shown_eq_self_iff.2 (h v hv), List.map_id']
  rw [shown, hvalues]

variable {S : Schema} {e : S.Entity} {c d : Comparison}

/-- Values of one type and as many as one operator takes are known by what follows its phrase. -/
theorem operandText_append_inj {type : DataType} {t u : Text} (hf : type ≠ .float)
    (hop : c.operator = d.operator) (hcount : c.operator.arity.accepts c.values.length)
    (hcount' : d.operator.arity.accepts d.values.length)
    (hvalues : ∀ v ∈ c.values, v.dataType = type) (hvalues' : ∀ v ∈ d.values, v.dataType = type)
    (ht : Value.EndsValue t) (hu : Value.EndsValue u)
    (h : c.operandText ++ t = d.operandText ++ u) :
    List.Forall₂ Value.ShownAlike c.values d.values ∧ t = u := by
  rw [operandText, operandText, ← hop] at h
  rw [← hop] at hcount'
  rw [firstText, firstText, secondText, secondText] at h
  generalize c.values = vs at *
  generalize d.values = ws at *
  cases harity : c.operator.arity with
  | zero =>
    rw [harity, Arity.accepts, beq_iff_eq, List.length_eq_zero_iff] at hcount hcount'
    rw [harity] at h
    subst hcount hcount'
    exact ⟨.nil, h⟩
  | one =>
    rw [harity, Arity.accepts, beq_iff_eq, List.length_eq_one_iff] at hcount hcount'
    obtain ⟨v, rfl⟩ := hcount
    obtain ⟨w, rfl⟩ := hcount'
    rw [harity] at h
    obtain ⟨hvw, htu⟩ := Value.quoted_append_inj (hvalues v List.mem_cons_self)
      (hvalues' w List.mem_cons_self) hf ht hu h
    exact ⟨.cons hvw .nil, htu⟩
  | several =>
    rw [harity, Arity.accepts, decide_eq_true_eq, Nat.one_le_iff_ne_zero, Ne,
      List.length_eq_zero_iff] at hcount hcount'
    rw [harity] at h
    refine Value.joinWith_quoted_append_inj hvalues hvalues' hf hcount hcount' ?_
    simpa using h
  | two =>
    rw [harity, Arity.accepts, beq_iff_eq, List.length_eq_two] at hcount hcount'
    obtain ⟨low, high, rfl⟩ := hcount
    obtain ⟨low', high', rfl⟩ := hcount'
    rw [harity] at h
    simp only [List.forall_mem_cons] at hvalues hvalues'
    have hpair : low.quoted ++ (" AND ".toList ++ (high.quoted ++ t)) =
        low'.quoted ++ (" AND ".toList ++ (high'.quoted ++ u)) := by simpa using h
    have hblank (x : Text) : Value.EndsValue (" AND ".toList ++ x) :=
      Value.endsValue_cons (.inl rfl) _
    obtain ⟨hlow, hrest⟩ := Value.quoted_append_inj hvalues.1 hvalues'.1 hf (hblank _) (hblank _)
      hpair
    obtain ⟨hhigh, htu⟩ := Value.quoted_append_inj hvalues.2.1 hvalues'.2.1 hf ht hu
      (List.append_cancel_left hrest)
    exact ⟨.cons hlow (.cons hhigh .nil), htu⟩

/-- The path of a comparison ends at the first blank. -/
theorem target_append_inj {t u : Text} (h : c.text ++ t = d.text ++ u) :
    c.target = d.target ∧
      c.operator.phrase ++ (c.operandText ++ t) = d.operator.phrase ++ (d.operandText ++ u) := by
  have hname (t : Target) : ∀ c ∈ t.text, (isNameChar c || c == '.') = true := by
    intro c hc
    simpa using t.isNameChar_of_mem_text hc
  have hblank (op : Operator) (t : Text) :
      ∀ c ∈ (op.phrase ++ t).head?, ¬ (isNameChar c || c == '.') = true := by
    obtain ⟨rest, hrest⟩ := op.exists_phrase_eq
    rw [hrest]
    rintro _ ⟨⟩
    decide
  rw [text, text, conditionText_eq, conditionText_eq] at h
  simp only [List.append_assoc] at h
  obtain ⟨htext, hrest⟩ := Text.append_inj_of_all (hname c.target) (hname d.target)
    (hblank c.operator _) (hblank d.operator _) h
  have hread := c.target.read_text
  rw [htext, d.target.read_text] at hread
  exact ⟨(Except.ok.inj hread).symm, hrest⟩

/-- Two comparisons at one path have values of one type. -/
theorem exists_dataType_of_wellTypedAt {path : Path S e} (hc : c.WellTypedAt path)
    (hd : d.WellTypedAt path) (hf : c.dataType ≠ some .float) :
    ∃ type : DataType, type ≠ .float ∧ (∀ v ∈ c.values, v.dataType = type) ∧
      ∀ v ∈ d.values, v.dataType = type := by
  have htype : c.dataType = d.dataType := hc.dataType.symm.trans hd.dataType
  cases hdata : c.dataType with
  | none =>
    -- a reference is compared with no values
    rw [(hc.reference hdata).2, (hd.reference (htype ▸ hdata)).2]
    exact ⟨.string, DataType.noConfusion, List.forall_mem_nil _, List.forall_mem_nil _⟩
  | some type =>
    refine ⟨type, fun h => hf (hdata.trans (congrArg some h)), fun v hv => ?_, fun v hv => ?_⟩
    · exact Option.some.inj ((hc.values v hv).symm.trans hdata)
    · exact Option.some.inj ((hd.values v hv).symm.trans (htype ▸ hdata))

/-- Comparisons on one entity that are written the same at the front of two texts are alike as a
    clock shows them, and the texts go on in the same way. -/
theorem text_append_inj {t u : Text} (hc : c.WellTyped S e) (hd : d.WellTyped S e)
    (hf : c.dataType ≠ some .float) (ht : Value.EndsValue t) (hu : Value.EndsValue u)
    (h : c.text ++ t = d.text ++ u) : c.shown.Alike d.shown ∧ t = u := by
  obtain ⟨path, hpath, hc⟩ := hc
  obtain ⟨path', hpath', hd⟩ := hd
  obtain ⟨htarget, hcondition⟩ := target_append_inj h
  -- the path is the same, and so is the type of the values
  obtain rfl : path = path' := Except.ok.inj (hpath.symm.trans (htarget ▸ hpath'))
  obtain ⟨type, hfloat, hvalues, hvalues'⟩ := exists_dataType_of_wellTypedAt hc hd hf
  obtain ⟨hop, hoperands⟩ := Operator.phrase_append_inj hcondition
  obtain ⟨halike, htu⟩ := operandText_append_inj hfloat hop hc.count hd.count hvalues hvalues' ht hu
    hoperands
  refine ⟨⟨htarget, hc.dataType.symm.trans hd.dataType, hc.nullable.symm.trans hd.nullable, hop,
    ?_⟩, htu⟩
  exact List.forall₂_map_left_iff.2 (List.forall₂_map_right_iff.2 halike)

/-- No comparison is written like what always holds, or like a conjunction. -/
theorem blank_mem_text (c : Comparison) : ' ' ∈ c.text := by
  obtain ⟨rest, hrest⟩ := c.operator.exists_phrase_eq
  rw [text, conditionText_eq, hrest]
  simp

theorem head?_text_ne (c : Comparison) : c.text.head? ≠ some '(' := by
  rw [text, List.head?_append_of_ne_nil _ c.target.text_ne_nil]
  intro h
  have hname := c.target.isNameChar_of_mem_text (List.mem_of_mem_head? h)
  revert hname
  decide

end Comparison

/-! ## Expressions -/

namespace Expression

variable {S : Schema} {e : S.Entity} {cs ds : List Comparison}

theorem partTexts_map (cs : List Comparison) :
    partTexts (cs.map compare) = cs.map fun c => '(' :: c.text ++ [')'] := by
  induction cs with
  | nil => rfl
  | cons c cs ih => rw [List.map_cons, partTexts, ih, text, List.map_cons]

theorem head?_text_all (a b : Comparison) (cs : List Comparison) :
    (ofComparisons (a :: b :: cs)).text.head? = some '(' := by
  rw [ofComparisons_cons_cons, text, partTexts, partTexts]
  rfl

/-- Normal forms of comparisons on one entity that are written the same have comparisons that are
    alike one by one, as a clock shows them. -/
theorem forall₂_shown_of_text_eq (hcs : ∀ c ∈ cs, c.WellTyped S e)
    (hds : ∀ d ∈ ds, d.WellTyped S e) (hf : ∀ c ∈ cs, c.dataType ≠ some .float)
    (h : (ofComparisons cs).text = (ofComparisons ds).text) :
    List.Forall₂ (fun c d => c.shown.Alike d.shown) cs ds := by
  have hblank : ' ' ∉ always.text := by decide
  match cs, ds with
  | [], [] => exact .nil
  | [], [d] => exact absurd (h ▸ d.blank_mem_text) hblank
  | [c], [] => exact absurd (h ▸ c.blank_mem_text) hblank
  | [], a :: b :: ds => exact absurd (h ▸ head?_text_all a b ds) (by decide)
  | a :: b :: cs, [] => exact absurd (h ▸ head?_text_all a b cs) (by decide)
  | [c], a :: b :: ds =>
    exact absurd ((congrArg List.head? h).trans (head?_text_all a b ds)) c.head?_text_ne
  | a :: b :: cs, [d] =>
    exact absurd ((congrArg List.head? h).symm.trans (head?_text_all a b cs)) d.head?_text_ne
  | [c], [d] =>
    have hc : c ∈ [c] := List.mem_cons_self
    obtain ⟨halike, -⟩ := Comparison.text_append_inj (hcs c hc) (hds d List.mem_cons_self)
      (hf c hc) Value.endsValue_nil Value.endsValue_nil (congrArg (· ++ []) h)
    exact .cons halike .nil
  | a :: b :: cs, a' :: b' :: ds =>
    rw [ofComparisons_cons_cons, ofComparisons_cons_cons, ← List.map_cons, ← List.map_cons,
      ← List.map_cons, ← List.map_cons, text, text, partTexts_map, partTexts_map] at h
    refine (Text.joinWith_append_inj (P := fun _ => True) ?_ (fun _ => ⟨trivial, ?_, ?_⟩)
      trivial trivial (List.cons_ne_nil _ _) (List.cons_ne_nil _ _) (congrArg (· ++ []) h)).1
    · intro c hc d hd t u _ _ h
      have hinside : c.text ++ ')' :: t = d.text ++ ')' :: u := by simpa using h
      obtain ⟨halike, hrest⟩ := Comparison.text_append_inj (hcs c hc) (hds d hd) (hf c hc)
        (Value.endsValue_close t) (Value.endsValue_close u) hinside
      exact ⟨halike, (List.cons.inj hrest).2⟩
    · exact List.append_ne_nil_of_left_ne_nil (by decide) _
    · exact List.append_ne_nil_of_left_ne_nil (by decide) _

end Expression

/-! ## Equality -/

theorem Value.Alike.same {v w : Value} (h : v.Alike w) (hf : v.dataType ≠ .float) : v.same w := by
  cases h with
  | refl => exact same_self hf
  | decimal hn _ => exact Decimal.same_iff.2 hn

/-- Whether two comparisons are equal, with values compared by what they denote. -/
def Comparison.same (c d : Comparison) : Bool :=
  c.target == d.target && c.dataType == d.dataType && c.nullable == d.nullable &&
    c.operator == d.operator && Criterion.sameAll Value.same c.values d.values

theorem Comparison.Alike.same {c d : Comparison} (h : c.Alike d)
    (hf : ∀ v ∈ c.values, v.dataType ≠ .float) : c.same d := by
  have hvalues : Criterion.sameAll Value.same c.values d.values := by
    have hall := h.values
    generalize c.values = vs at hall hf
    generalize d.values = ws at hall
    induction hall with
    | nil => rfl
    | cons hv _ ih =>
      obtain ⟨hv', hf⟩ := List.forall_mem_cons.1 hf
      exact Bool.and_eq_true_iff.2 ⟨hv.same hv', ih hf⟩
  simp [Comparison.same, h.target, h.dataType, h.nullable, h.operator, hvalues]

namespace Expression

mutual

/-- Whether two expressions are equal leaf by leaf. -/
def same : Expression → Expression → Bool
  | always, always => true
  | compare c, compare d => c.same d
  | all as, all bs => sameParts as bs
  | _, _ => false

/-- Whether the parts of two conjunctions are equal one by one. -/
def sameParts : List Expression → List Expression → Bool
  | [], [] => true
  | a :: as, b :: bs => a.same b && sameParts as bs
  | _, _ => false

end

/-- Whether a clock shows the time of every instant in an expression. -/
def IsClocked (a : Expression) : Prop := ∀ c ∈ a.comparisons, ∀ v ∈ c.values, v.IsClocked

theorem IsClocked.map_shown {a : Expression} (h : a.IsClocked) :
    a.comparisons.map .shown = a.comparisons := by
  rw [List.map_congr_left fun c hc => Comparison.shown_eq_self (h c hc), List.map_id']

/-- A conjunction is in normal form when its sides are. -/
theorem and_eq_ofComparisons {a b : Expression} (ha : a = ofComparisons a.comparisons)
    (hb : b = ofComparisons b.comparisons) : a.and b = ofComparisons (a.and b).comparisons := by
  rw [comparisons_and, ← and_ofComparisons, ← ha, ← hb]

/-- Normal forms are equal when their comparisons are. -/
theorem same_ofComparisons {cs ds : List Comparison}
    (h : List.Forall₂ (fun c d => c.same d) cs ds) :
    (ofComparisons cs).same (ofComparisons ds) := by
  have hparts : sameParts (cs.map compare) (ds.map compare) := by
    induction h with
    | nil => rfl
    | cons hc _ ih => exact Bool.and_eq_true_iff.2 ⟨hc, ih⟩
  match h with
  | .nil => rfl
  | .cons hc .nil => exact hc
  | .cons _ (.cons _ _) => exact hparts

end Expression

namespace Filter

variable {S : Schema} {e : S.Entity} {f g : Filter S e}

/-- The expression of a filter is the normal form of its comparisons. -/
theorem Combined.expression_eq (h : f.Combined) :
    f.expression = .ofComparisons f.expression.comparisons := by
  induction h with
  | all => rfl
  | build h =>
    refine foldlM_invariant (P := fun f : Filter S e =>
      f.expression = .ofComparisons f.expression.comparisons) (fun f c g hf h => ?_) rfl h
    obtain ⟨⟨comparison, test⟩, -, h⟩ := bind_eq_ok.1 h
    rw [← pure_eq_ok.1 h]
    exact Expression.and_eq_ofComparisons hf rfl
  | and _ _ hf hg => exact Expression.and_eq_ofComparisons hf hg

/-- **The text of an expression is unambiguous.**  Two filters of one entity, however they are
    put together, whose expressions are written the same have as many comparisons, one by one with
    the same path, operator and values, when floats are not compared in it and times are taken as a
    clock shows them.  So they have the same expression when a clock shows all times in it; only
    decimals of one number may differ, in how they are kept. -/
theorem Combined.same_of_text_eq (hf : f.Combined) (hg : g.Combined)
    (hfloat : ∀ c ∈ f.expression.comparisons, c.dataType ≠ some .float)
    (h : f.expression.text = g.expression.text) :
    List.Forall₂ Comparison.Alike (f.expression.comparisons.map .shown)
        (g.expression.comparisons.map .shown) ∧
      (f.expression.IsClocked → g.expression.IsClocked → f.expression.same g.expression) := by
  have halike : List.Forall₂ (fun c d => c.shown.Alike d.shown) f.expression.comparisons
      g.expression.comparisons := by
    refine Expression.forall₂_shown_of_text_eq hf.wellTyped hg.wellTyped hfloat ?_
    rw [← hf.expression_eq, ← hg.expression_eq, h]
  have hshown : List.Forall₂ Comparison.Alike (f.expression.comparisons.map .shown)
      (g.expression.comparisons.map .shown) :=
    List.forall₂_map_left_iff.2 (List.forall₂_map_right_iff.2 halike)
  refine ⟨hshown, fun hfclock hgclock => ?_⟩
  rw [hfclock.map_shown, hgclock.map_shown] at hshown
  have hvalues : ∀ c ∈ f.expression.comparisons, ∀ v ∈ c.values, v.dataType ≠ .float := by
    intro c hc v hv hfloat'
    obtain ⟨path, -, hwell⟩ := hf.wellTyped c hc
    exact hfloat c hc ((hwell.values v hv).trans (congrArg some hfloat'))
  rw [hf.expression_eq, hg.expression_eq]
  exact Expression.same_ofComparisons
    (((List.forall₂_and_left _ _).2 ⟨hvalues, hshown⟩).imp fun _ _ h => h.2.same h.1)

/-- A label that reads like the end of one condition and the beginning of another. -/
def trickyLabel : Text := "a') AND (price = '1".toList

/-- A criterion for that label. -/
def tricky : Criterion := ⟨Query.label, .equal, [.ofQuoted trickyLabel], rfl⟩

/-- A criterion for prices. -/
def cheap : Criterion := ⟨Query.price, .lessThan, [.ofValue (.decimal ⟨15, 1⟩)], rfl⟩

/-- The comparisons of the two. -/
def trickyComparison : Comparison :=
  ⟨Query.label, some .string, false, .equal, [.string trickyLabel]⟩

def cheapComparison : Comparison :=
  ⟨Query.price, some .decimal, false, .lessThan, [.decimal ⟨15, 1⟩]⟩

/-- The label and the price, from one builder and from two. -/
theorem same_of_text_eq_tricky : ∃ f g : Filter Query.wares (), f.Combined ∧ g.Combined ∧
    f.expression.text = "(label = 'a'') AND (price = ''1') AND (price < 1.5)".toList ∧
    f.expression.text = g.expression.text ∧ f.expression.same g.expression := by
  have hbuild (cs : List Criterion) (ds : List Comparison)
      (h : (build (S := Query.wares) (e := ()) none cs).map (·.expression.comparisons) = .ok ds) :
      ∃ f : Filter Query.wares (), f.Combined ∧ f.expression.comparisons = ds := by
    obtain ⟨f, hf, hds⟩ := map_eq_ok.1 h
    exact ⟨f, .build hf, hds⟩
  obtain ⟨f, hf, hfs⟩ := hbuild [tricky, cheap] [trickyComparison, cheapComparison] rfl
  obtain ⟨g, hg, hgs⟩ := hbuild [tricky] [trickyComparison] rfl
  obtain ⟨g', hg', hgs'⟩ := hbuild [cheap] [cheapComparison] rfl
  have hands : (g.and g').expression.comparisons = [trickyComparison, cheapComparison] :=
    (comparisons_and g g').trans (congrArg₂ (· ++ ·) hgs hgs')
  have htext : f.expression.text = (g.and g').expression.text := by
    rw [hf.expression_eq, (hg.and hg').expression_eq, hfs, hands]
  have hfloat : ∀ c ∈ f.expression.comparisons, c.dataType ≠ some .float := by
    rw [hfs]
    decide
  have hclock {h : Filter Query.wares ()}
      (hs : h.expression.comparisons = [trickyComparison, cheapComparison]) :
      h.expression.IsClocked := by
    rw [Expression.IsClocked, hs]
    decide
  refine ⟨f, g.and g', hf, hg.and hg', ?_, htext,
    (hf.same_of_text_eq (hg.and hg') hfloat htext).2 (hclock hfs) (hclock hands)⟩
  rw [hf.expression_eq, hfs]
  decide +kernel

/-- An entity with an instant. -/
def visits : Schema where
  Entity := Unit
  Item _ := Instant
  properties _ := [.field "joined".toList (Field.of id)]

/-- The comparison with what comes before an instant. -/
def beforeComparison (i : Instant) : Comparison :=
  ⟨(Query.joinedBefore i).target, some .dateTime, false, .lessThan, [.dateTime i]⟩

theorem build_before (i : Instant) : ∃ f : Filter visits (), f.Combined ∧
    f.expression = .compare (beforeComparison i) ∧
      ∀ x : Instant, f.accepts x = (Value.dateTime x).isLess (.dateTime i) := by
  let joined : Path visits () :=
    ⟨(Query.joinedBefore i).target, .field (Field.of (id : Instant → Instant))⟩
  have hbuild : build none [Query.joinedBefore i] = .ok (single (beforeComparison i)
      (comparisonTest joined .lessThan [.dateTime i])) := rfl
  exact ⟨_, .build hbuild, rfl, fun _ => accepts_single⟩

/-- An instant whose time no clock shows is written like the second after, and is another one: what
    comes between the two tells the filters apart. -/
theorem exists_text_eq_not_same : ∃ f g : Filter visits (), f.Combined ∧ g.Combined ∧
    (∀ c ∈ f.expression.comparisons, c.dataType ≠ some .float) ∧
    f.expression.text = "joined < '2024-01-05T10:30:01.500Z'".toList ∧
    f.expression.text = g.expression.text ∧ ¬ f.expression.same g.expression ∧
    ∃ x : Instant, f.accepts x = false ∧ g.accepts x = true := by
  obtain ⟨f, hf, hexpression, haccepts⟩ := build_before .overrun
  obtain ⟨g, hg, hexpression', haccepts'⟩ := build_before Instant.overrun.shown
  let between : Instant := ⟨⟨2024, 1, 5, by decide⟩, 37801, 0, by decide⟩
  have hsees : (Value.dateTime between).isLess (.dateTime .overrun) = false ∧
      (Value.dateTime between).isLess (.dateTime Instant.overrun.shown) = true := by decide +kernel
  refine ⟨f, g, hf, hg, ?_, ?_, ?_, ?_, between, (haccepts _).trans hsees.1,
    (haccepts' _).trans hsees.2⟩
  all_goals rw [hexpression]
  · decide
  · decide +kernel
  · rw [hexpression']
    decide +kernel
  · rw [hexpression']
    decide +kernel

end Filter

end ResourceQuery
