/-
  Resource queries — globs.

  * `Glob`: a pattern of characters and gaps.
  * `Glob.Fits`: what a pattern stands for.  A character stands for itself, and a gap for any
    characters but line feeds, or for none.
  * `Glob.accepts`: whether a pattern fits a whole text; `accepts_iff` ties it to `Fits`.

  A pattern is matched from its end: for each of its parts in turn, a row of truth values
  tells from which positions of the text on the parts so far fit the rest of it.  The work is
  the length of the pattern times the length of the text, whatever the number of gaps.
-/
import ResourceQuery.Text.Basic

namespace ResourceQuery

/-- A part of a pattern. -/
inductive Glob.Part where
  | char (c : Char)
  | gap
deriving DecidableEq

/-- A pattern of characters and gaps. -/
abbrev Glob := List Glob.Part

namespace Glob

/-- The pattern whose gaps are the occurrences of `wildcard`. -/
def ofPattern (wildcard : Char) (pattern : Text) : Glob :=
  pattern.map fun c => if c = wildcard then .gap else .char c

/-- What a pattern stands for. -/
inductive Fits : Glob → Text → Prop
  | nil : Fits [] []
  | char {c : Char} {g : Glob} {t : Text} : Fits g t → Fits (.char c :: g) (c :: t)
  | gap {w : Text} {g : Glob} {t : Text} : '\n' ∉ w → Fits g t → Fits (.gap :: g) (w ++ t)

/-! ## Rows -/

/-- The row of the empty pattern: it fits the end of the text alone. -/
def lastRow : Text → List Bool
  | [] => [true]
  | _ :: t => false :: lastRow t

/-- The row of a pattern that begins with `c`, from the row of the rest of it. -/
def charRow (c : Char) : Text → List Bool → List Bool
  | [], _ => [false]
  | d :: t, row => (d == c && row.tail.headD false) :: charRow c t row.tail

/-- The row of a pattern that begins with a gap, from the row of the rest of it. -/
def gapRow : Text → List Bool → List Bool
  | [], row => [row.headD false]
  | d :: t, row =>
    let next := gapRow t row.tail
    (row.headD false || (d != '\n' && next.headD false)) :: next

/-- The row of a pattern: whether it fits the rest of the text from each position on, the end
    included. -/
def row (t : Text) : Glob → List Bool
  | [] => lastRow t
  | .char c :: g => charRow c t (row t g)
  | .gap :: g => gapRow t (row t g)

/-- Whether the pattern fits the whole text. -/
def accepts (g : Glob) (t : Text) : Bool := (row t g).headD false

/-! ## Rows decide what fits -/

/-- The row tells from which positions of the text on `P` holds of the rest of it. -/
def Decides (P : Text → Prop) : Text → List Bool → Prop
  | [], row => ∃ b : Bool, row = [b] ∧ (b ↔ P [])
  | c :: t, row => ∃ (b : Bool) (bs : List Bool), row = b :: bs ∧ (b ↔ P (c :: t)) ∧ Decides P t bs

theorem Decides.headD_iff {P : Text → Prop} {t : Text} {row : List Bool}
    (h : Decides P t row) : row.headD false ↔ P t := by
  cases t with
  | nil => obtain ⟨b, rfl, hb⟩ := h; exact hb
  | cons c t => obtain ⟨b, bs, rfl, hb, _⟩ := h; exact hb

theorem fits_nil_iff {t : Text} : Fits [] t ↔ t = [] :=
  ⟨fun h => by cases h; rfl, by rintro rfl; exact .nil⟩

theorem fits_char_iff {c : Char} {g : Glob} {t : Text} :
    Fits (.char c :: g) t ↔ ∃ s, t = c :: s ∧ Fits g s :=
  ⟨fun h => by cases h with | char h => exact ⟨_, rfl, h⟩, by rintro ⟨s, rfl, h⟩; exact .char h⟩

theorem fits_gap_iff {g : Glob} {t : Text} :
    Fits (.gap :: g) t ↔ Fits g t ∨ ∃ d s, t = d :: s ∧ d ≠ '\n' ∧ Fits (.gap :: g) s := by
  constructor
  · intro h
    cases h with
    | @gap w _ t hw h =>
      cases w with
      | nil => exact .inl h
      | cons d w =>
        rw [List.mem_cons, not_or] at hw
        exact .inr ⟨d, w ++ t, rfl, Ne.symm hw.1, .gap hw.2 h⟩
  · rintro (h | ⟨d, s, rfl, hd, h⟩)
    · exact .gap (w := []) List.not_mem_nil h
    · cases h with
      | @gap w _ t hw h =>
        refine .gap (w := d :: w) ?_ h
        rw [List.mem_cons, not_or]
        exact ⟨Ne.symm hd, hw⟩

theorem decides_lastRow (t : Text) : Decides (Fits []) t (lastRow t) := by
  induction t with
  | nil => exact ⟨true, rfl, by simp [fits_nil_iff]⟩
  | cons d t ih => exact ⟨false, lastRow t, rfl, by simp [fits_nil_iff], ih⟩

theorem decides_charRow (c : Char) {g : Glob} {t : Text} {row : List Bool}
    (h : Decides (Fits g) t row) : Decides (Fits (.char c :: g)) t (charRow c t row) := by
  induction t generalizing row with
  | nil => exact ⟨false, rfl, by simp [fits_char_iff]⟩
  | cons d t ih =>
    obtain ⟨b, bs, rfl, _, hbs⟩ := h
    refine ⟨d == c && bs.headD false, charRow c t bs, rfl, ?_, ih hbs⟩
    rw [fits_char_iff, Bool.and_eq_true, beq_iff_eq, hbs.headD_iff]
    exact ⟨fun ⟨hd, ht⟩ => ⟨t, by rw [hd], ht⟩,
      fun ⟨s, hs, ht⟩ => by cases hs; exact ⟨rfl, ht⟩⟩

theorem decides_gapRow {g : Glob} {t : Text} {row : List Bool}
    (h : Decides (Fits g) t row) : Decides (Fits (.gap :: g)) t (gapRow t row) := by
  induction t generalizing row with
  | nil =>
    refine ⟨row.headD false, rfl, ?_⟩
    rw [h.headD_iff, fits_gap_iff]
    exact ⟨.inl, fun h => h.elim id (by rintro ⟨_, _, ⟨⟩, _⟩)⟩
  | cons d t ih =>
    have hd := h.headD_iff
    obtain ⟨b, bs, rfl, _, hbs⟩ := h
    refine ⟨_, gapRow t bs, rfl, ?_, ih hbs⟩
    rw [fits_gap_iff, Bool.or_eq_true, Bool.and_eq_true, bne_iff_ne, hd, List.tail_cons,
      (ih hbs).headD_iff]
    exact or_congr_right ⟨fun ⟨hn, ht⟩ => ⟨d, t, rfl, hn, ht⟩,
      fun ⟨_, _, he, hn, ht⟩ => by cases he; exact ⟨hn, ht⟩⟩

theorem decides_row (g : Glob) (t : Text) : Decides (Fits g) t (row t g) := by
  induction g with
  | nil => exact decides_lastRow t
  | cons part g ih =>
    cases part with
    | char c => exact decides_charRow c ih
    | gap => exact decides_gapRow ih

/-- Matching accepts exactly the texts that the pattern stands for. -/
theorem accepts_iff {g : Glob} {t : Text} : g.accepts t ↔ Fits g t := (decides_row g t).headD_iff

end Glob

end ResourceQuery
