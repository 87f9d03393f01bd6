/-
  Resource queries — targets read back.

  * `Text.split_joinWith`: pieces without the separator are what their joined text is split
    into.
  * `Text.trim_eq_self`: a text without blanks has none to lose.
  * `Target.read_text`: the dotted path of a target names it.
  * `Target.isWord_text`: a dotted path is a word.
-/
import ResourceQuery.Proofs.Token.Spelling
import ResourceQuery.Target

namespace ResourceQuery

namespace Text

variable {sep : Char}

/-! ## Pieces -/

theorem split_of_not_mem {t : Text} (h : sep ∉ t) : split sep t = [t] := by
  induction t with
  | nil => rfl
  | cons c t ih =>
    obtain ⟨hc, ht⟩ := not_or.1 (mt List.mem_cons.2 h)
    rw [split, if_neg (Ne.symm hc), ih ht]

theorem split_append {s : Text} (h : sep ∉ s) (t : Text) :
    split sep (s ++ sep :: t) = s :: split sep t := by
  induction s with
  | nil => rw [List.nil_append, split, if_pos rfl]
  | cons c s ih =>
    obtain ⟨hc, hs⟩ := not_or.1 (mt List.mem_cons.2 h)
    rw [List.cons_append, split, if_neg (Ne.symm hc), ih hs]

theorem split_joinWith {pieces : List Text} (hne : pieces ≠ []) (h : ∀ p ∈ pieces, sep ∉ p) :
    split sep (joinWith [sep] pieces) = pieces := by
  induction pieces with
  | nil => exact absurd rfl hne
  | cons p ps ih =>
    obtain ⟨hp, hps⟩ := List.forall_mem_cons.1 h
    cases ps with
    | nil => exact split_of_not_mem hp
    | cons q ps =>
      have hjoin : joinWith [sep] (p :: q :: ps) = p ++ sep :: joinWith [sep] (q :: ps) := by
        simp [joinWith]
      rw [hjoin, split_append hp, ih (List.cons_ne_nil _ _) hps]

theorem mem_joinWith {sep : Text} {pieces : List Text} {c : Char} (h : c ∈ joinWith sep pieces) :
    c ∈ sep ∨ ∃ p ∈ pieces, c ∈ p := by
  induction pieces with
  | nil => cases h
  | cons p ps ih =>
    cases ps with
    | nil => exact .inr ⟨p, List.mem_cons_self, h⟩
    | cons q ps =>
      rw [joinWith, List.mem_append, List.mem_append] at h
      · rcases h with (h | h) | h
        · exact .inr ⟨p, List.mem_cons_self, h⟩
        · exact .inl h
        · rcases ih h with h | ⟨r, hr, hc⟩
          · exact .inl h
          · exact .inr ⟨r, List.mem_cons_of_mem _ hr, hc⟩
      · exact List.cons_ne_nil _ _

/-! ## Blanks -/

theorem trimStart_eq_self {t : Text} (h : ∀ c ∈ t.head?, ¬ isBlank c) : trimStart t = t := by
  cases t with
  | nil => rfl
  | cons c t => rw [trimStart, List.dropWhile_cons_of_neg (h c rfl)]

theorem trim_eq_self {t : Text} (h : ∀ c ∈ t, ¬ isBlank c) : trim t = t := by
  have hstart : trimStart t = t := trimStart_eq_self fun c hc => h c (List.mem_of_mem_head? hc)
  have hend : trimStart t.reverse = t.reverse := trimStart_eq_self fun c hc =>
    h c (List.mem_reverse.1 (List.mem_of_mem_head? hc))
  rw [trimStart] at hend
  rw [trim, hstart, trimEnd, hend, List.reverse_reverse]

end Text

/-! ## Names -/

theorem not_isBlank_of_isNameChar {c : Char} (h : isNameChar c) : ¬ Text.isBlank c := by
  simp only [isNameChar, Bool.or_eq_true, isAlphanum_iff, beq_iff_eq] at h
  rcases h with h | rfl
  · simp only [Text.isBlank, Bool.or_eq_true, Bool.and_eq_true, decide_eq_true_eq, beq_iff_eq]
    omega
  · decide

theorem not_isBlank_of_isDigit {c : Char} (h : c.isDigit) : ¬ Text.isBlank c := by
  refine not_isBlank_of_isNameChar ?_
  simp [isNameChar, Char.isAlphanum, h]

theorem not_isNameChar_point : ¬ isNameChar '.' := by decide

namespace Target

variable (t : Target)

/-- The characters of a dotted path. -/
theorem isNameChar_of_mem_text {c : Char} (h : c ∈ t.text) : isNameChar c ∨ c = '.' := by
  rcases Text.mem_joinWith h with hc | ⟨name, hn, hc⟩
  · exact .inr (List.mem_singleton.1 hc)
  · exact .inl (List.all_eq_true.1 (t.valid.2 name hn).2.1 c hc)

theorem not_isBlank_of_mem_text {c : Char} (h : c ∈ t.text) : ¬ Text.isBlank c := by
  rcases t.isNameChar_of_mem_text h with hc | rfl
  · exact not_isBlank_of_isNameChar hc
  · decide

theorem text_ne_nil : t.text ≠ [] := by
  obtain ⟨names, hne, hnames⟩ := t
  match names, hne with
  | [name], _ => exact (hnames name List.mem_cons_self).1
  | name :: _ :: _, _ =>
    have := (hnames name List.mem_cons_self).1
    simp [text, Text.joinWith, this]

theorem split_text : Text.split '.' t.text = t.names :=
  Text.split_joinWith t.valid.1 fun name hn hc =>
    not_isNameChar_point (List.all_eq_true.1 (t.valid.2 name hn).2.1 '.' hc)

theorem fault?_text : fault? t.text = none := by
  rw [fault?, if_neg (by simpa using t.text_ne_nil), split_text, List.findSome?_eq_none_iff]
  intro name hn
  obtain ⟨hne, hall, -⟩ := t.valid.2 name hn
  have hchars : ∀ c ∈ name, isNameChar c := List.all_eq_true.1 hall
  simpa [nameFault?, hne] using hchars

/-- A target is named by its dotted path. -/
theorem read_text : read t.text = .ok t := by
  have htrim : Text.trim t.text = t.text :=
    Text.trim_eq_self fun c hc => t.not_isBlank_of_mem_text hc
  have hlower : (Text.split '.' (Text.trim t.text)).map Text.lower = t.names := by
    rw [htrim, split_text]
    exact (List.map_congr_left fun name hn => (t.valid.2 name hn).2.2).trans (List.map_id _)
  unfold read
  split
  · rename_i cause h
    rw [htrim, fault?_text] at h
    cases h
  · simp only [hlower]

/-- A dotted path is a word. -/
theorem isWord_text : Lexeme.IsWord t.text := by
  refine ⟨t.text_ne_nil, ?_⟩
  intro c hc
  rcases t.isNameChar_of_mem_text hc with h | rfl
  · exact Lexeme.isWordChar_of_isNamePart h
  · decide

end Target

end ResourceQuery
