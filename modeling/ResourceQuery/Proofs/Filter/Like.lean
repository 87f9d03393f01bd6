/-
  Resource queries — patterns.

  * `Spread`: a text is made up of the pieces of a pattern, up to folding, with gaps between them
    that have no line feeds.  `accepts_ofPattern_iff`: a glob accepts the texts over which the
    pieces between its wildcards are spread.
  * `admits_like_iff`: a criterion with a pattern on a property of strings tests what the property
    reads.
  * `like_iff_spread`: patterns with wildcards are globs.
  * `like_enclosed_and_plain`: a pattern between two wildcards, and the pattern alone.
  * `like_contained`: a pattern without wildcards finds its text with ASCII letters in either case,
    unless what stands around the text changes its sigmas.
-/
import ResourceQuery.Proofs.Filter.Operators
import ResourceQuery.Proofs.Filter.Strings
import ResourceQuery.Proofs.Text.Case

namespace ResourceQuery

open Text

/-! ## Globs -/

/-- Whether a text is made up of pieces, up to folding, with gaps between them that have no line
    feeds. -/
inductive Spread : List Text → Text → Prop
  | last {p q : Text} : fold q = fold p → Spread [p] q
  | gap {p q w t : Text} {ps : List Text} : fold q = fold p → '\n' ∉ w → Spread ps t →
      Spread (p :: ps) (q ++ (w ++ t))

namespace Spread

variable {c w : Char} {p s : Text} {ps : List Text}

theorem nil_iff : Spread [[]] s ↔ s = [] := by
  constructor
  · intro h
    cases h with
    | last h => exact List.map_eq_nil_iff.1 h
    | gap _ _ h => cases h
  · rintro rfl
    exact .last rfl

/-- A gap comes first when the first piece is empty. -/
theorem nil_cons_iff (hps : ps ≠ []) :
    Spread ([] :: ps) s ↔ ∃ g t, s = g ++ t ∧ '\n' ∉ g ∧ Spread ps t := by
  constructor
  · intro h
    cases h with
    | last => exact absurd rfl hps
    | @gap _ q g t _ hq hg h =>
      obtain rfl : q = [] := List.map_eq_nil_iff.1 hq
      exact ⟨g, t, rfl, hg, h⟩
  · rintro ⟨g, t, rfl, hg, h⟩
    exact .gap (q := []) rfl hg h

theorem cons_cons_iff : Spread ((c :: p) :: ps) s ↔
    ∃ d t, s = d :: t ∧ foldChar d = foldChar c ∧ Spread (p :: ps) t := by
  constructor
  · intro h
    cases h with
    | last h =>
      obtain ⟨d, t, rfl, hd, ht⟩ := List.map_eq_cons_iff.1 h
      exact ⟨d, t, rfl, hd, .last ht⟩
    | gap hq hg h =>
      obtain ⟨d, t, rfl, hd, ht⟩ := List.map_eq_cons_iff.1 hq
      exact ⟨d, _, rfl, hd, .gap ht hg h⟩
  · rintro ⟨d, t, rfl, hd, h⟩
    have hcons {q : Text} (hq : fold q = fold p) : fold (d :: q) = fold (c :: p) := by
      show foldChar d :: fold q = foldChar c :: fold p
      rw [hd, hq]
    cases h with
    | last h => exact .last (hcons h)
    | gap hq hg h => exact .gap (hcons hq) hg h

end Spread

namespace Glob

variable {c w : Char} {s : Text} {g : Glob}

theorem fits_char_fold_iff : Fits (.char (foldChar c) :: g) (Text.fold s) ↔
    ∃ d t, s = d :: t ∧ foldChar d = foldChar c ∧ Fits g (Text.fold t) := by
  rw [fits_char_iff]
  constructor
  · rintro ⟨t, hs, h⟩
    obtain ⟨d, t, rfl, hd, rfl⟩ := List.map_eq_cons_iff.1 hs
    exact ⟨d, t, rfl, hd, h⟩
  · rintro ⟨d, t, rfl, hd, h⟩
    exact ⟨_, congrArg (· :: Text.fold t) hd, h⟩

theorem fits_gap_fold_iff : Fits (.gap :: g) (Text.fold s) ↔
    ∃ w t, s = w ++ t ∧ '\n' ∉ w ∧ Fits g (Text.fold t) := by
  constructor
  · generalize hs : Text.fold s = u
    intro h
    cases h with
    | gap hw h =>
      obtain ⟨w, t, rfl, rfl, rfl⟩ := List.map_eq_append_iff.1 hs
      exact ⟨w, t, rfl, fun hmem => hw (newline_mem_fold.2 hmem), h⟩
  · rintro ⟨w, t, rfl, hw, h⟩
    rw [fold_append]
    exact .gap (fun hmem => hw (newline_mem_fold.1 hmem)) h

/-- A glob fits the texts over which the pieces between its wildcards are spread. -/
theorem fits_ofPattern_iff (w : Char) (pattern : Text) (s : Text) :
    Fits (ofPattern w pattern).fold (Text.fold s) ↔ Spread (split w pattern) s := by
  induction pattern generalizing s with
  | nil =>
    rw [split, Spread.nil_iff]
    show Fits [] (Text.fold s) ↔ s = []
    rw [fits_nil_iff]
    exact List.map_eq_nil_iff
  | cons c pattern ih =>
    by_cases hc : c = w
    · have hglob : (ofPattern w (c :: pattern)).fold = .gap :: (ofPattern w pattern).fold := by
        simp [ofPattern, Glob.fold, hc]
      rw [hglob, fits_gap_fold_iff, split, if_pos hc, Spread.nil_cons_iff (split_ne_nil w pattern)]
      simp only [ih]
    · have hglob : (ofPattern w (c :: pattern)).fold =
          .char (foldChar c) :: (ofPattern w pattern).fold := by
        simp [ofPattern, Glob.fold, hc]
      obtain ⟨piece, pieces, hsplit⟩ := List.exists_cons_of_ne_nil (split_ne_nil w pattern)
      rw [hglob, fits_char_fold_iff, split, if_neg hc, hsplit, Spread.cons_cons_iff, ← hsplit]
      simp only [ih]

theorem accepts_ofPattern_iff (w : Char) (pattern s : Text) :
    (ofPattern w pattern).fold.accepts (Text.fold s) ↔ Spread (split w pattern) s := by
  rw [accepts_iff, fits_ofPattern_iff]

end Glob

/-! ## The two tests -/

variable {wildcard : Option Char} {w : Char} {pattern s : Text}

theorem likeTest_glob (h : w ∈ pattern) :
    likeTest (some w) pattern s ↔ Spread (split w pattern) s := by
  have hfilter : (some w).filter pattern.contains = some w := by simp [h]
  rw [likeTest, hfilter, Glob.accepts_ofPattern_iff]

theorem likeTest_plain (h : ∀ w ∈ wildcard, w ∉ pattern) :
    likeTest wildcard pattern s ↔ hasPart (toLowerCase pattern) (toLowerCase s) := by
  have hfilter : wildcard.filter pattern.contains = none := by
    cases wildcard with
    | none => rfl
    | some w => simpa using h w rfl
  rw [likeTest, hfilter]

/-- Between two wildcards a text may stand anywhere, with no line feeds around it. -/
theorem likeTest_enclosed {p : Text} (hp : w ∉ p) :
    likeTest (some w) (w :: (p ++ [w])) s ↔
      ∃ a y b, s = a ++ y ++ b ∧ fold y = fold p ∧ '\n' ∉ a ∧ '\n' ∉ b := by
  have hsplit : split w (w :: (p ++ [w])) = [[], p, []] := by
    rw [split, if_pos rfl, split_append hp, split]
  rw [likeTest_glob List.mem_cons_self, hsplit, Spread.nil_cons_iff (List.cons_ne_nil _ _)]
  constructor
  · rintro ⟨a, t, rfl, ha, h⟩
    cases h with
    | @gap _ y b r _ hy hb h =>
      obtain rfl := Spread.nil_iff.1 h
      exact ⟨a, y, b, by simp, hy, ha, hb⟩
  · rintro ⟨a, y, b, rfl, hy, ha, hb⟩
    have h : Spread [p, []] (y ++ (b ++ [])) := .gap hy hb (Spread.nil_iff.2 rfl)
    exact ⟨a, y ++ b, List.append_assoc a y b, ha, by rwa [List.append_nil] at h⟩

/-! ## Criteria with patterns -/

namespace Filter

open Query

variable {S : Schema} {e : S.Entity} {path : Path S e} {target : Target} {l : Literal}

section

variable (hpath : S.resolve e target = .ok path) (htype : path.dataType? = some .string)
include hpath htype

theorem build_like (wildcard : Option Char) (l : Literal) : ∃ comparison,
    build wildcard [⟨target, .like, [l], rfl⟩] =
      .ok (single comparison (likeTestAt wildcard path [.string l.text])) :=
  ⟨_, build_of_text hpath htype rfl⟩

theorem builds_like (wildcard : Option Char) (l : Literal) :
    Builds S e wildcard target .like [l] := by
  obtain ⟨comparison, hbuild⟩ := build_like hpath htype wildcard l
  exact exists_criterion_iff.2 ⟨rfl, _, hbuild⟩

/-- A criterion with a pattern tests the string that the property reads. -/
theorem admits_like_iff {x : S.Item e} : Admits wildcard target .like [l] x ↔
    ∃ s, path.read x = some (.string s) ∧ likeTest wildcard l.text s := by
  obtain ⟨comparison, hbuild⟩ := build_like hpath htype wildcard l
  have hadmits : Admits wildcard target .like [l] x ↔
      likeTestAt wildcard path [.string l.text] x := by
    rw [Admits, exists_criterion_iff]
    constructor
    · rintro ⟨_, f, hf, hx⟩
      obtain rfl := Except.ok.inj (hbuild.symm.trans hf)
      rwa [accepts_single] at hx
    · intro hx
      exact ⟨rfl, _, hbuild, by rwa [accepts_single]⟩
  rw [hadmits, likeTestAt]
  cases path.read x with
  | none => simp
  | some actual => cases actual <;> simp [Value.text?]

theorem admits_like_iff_of_read {x : S.Item e} (hread : path.read x = some (.string s)) :
    Admits wildcard target .like [l] x ↔ likeTest wildcard l.text s := by
  rw [admits_like_iff hpath htype, hread]
  simp

end

/-- A ware with a label. -/
def labelled (name : Text) : wares.Item () := (name, .ofInt 0)

/-! ## Patterns with wildcards -/

/-- **Patterns with wildcards are globs.**  A pattern with the wildcard in it is built into a filter
    of strings, and admits exactly those that are the pieces of the pattern between its wildcards,
    one after the other, each up to folding, with gaps without line feeds between them. -/
theorem like_iff_spread (hpath : S.resolve e target = .ok path)
    (htype : path.dataType? = some .string) {w : Char} (hw : w ∈ l.text) :
    Builds S e (some w) target .like [l] ∧ ∀ x : S.Item e, Admits (some w) target .like [l] x ↔
      ∃ s, path.read x = some (.string s) ∧ Spread (split w l.text) s := by
  refine ⟨builds_like hpath htype (some w) l, fun x => ?_⟩
  simp only [admits_like_iff hpath htype, likeTest_glob hw]

/-- A point in a pattern is a point, and a wildcard may be a letter. -/
theorem like_iff_spread_labels :
    Admits (some 'z') label .like [.ofQuoted "z.Xz".toList] (labelled "a.xy".toList) ∧
      ¬ Admits (some 'z') label .like [.ofQuoted "z.Xz".toList] (labelled "aaxy".toList) := by
  have hpath : wares.resolve () label = .ok ⟨label, .field (Field.of Prod.fst)⟩ := rfl
  obtain ⟨-, hadmits⟩ := like_iff_spread (l := .ofQuoted "z.Xz".toList) hpath rfl
    (w := 'z') (by decide)
  have hspread : Spread [[], ['.', 'X'], []] "a.xy".toList :=
    .gap (q := []) (w := ['a']) rfl (by decide)
      (.gap (q := ['.', 'x']) (w := ['y']) rfl (by decide) (.last rfl))
  refine ⟨(hadmits _).2 ⟨_, rfl, hspread⟩, ?_⟩
  rw [hadmits]
  rintro ⟨s, hs, h⟩
  obtain rfl := Value.string.inj (Option.some.inj hs)
  rw [← Glob.accepts_ofPattern_iff] at h
  revert h
  decide +kernel

/-! ## A pattern between wildcards and alone -/

/-- **A pattern between two wildcards, and alone.**  Between wildcards a pattern admits the strings
    that have it, up to folding, with no line feed before or after it.  Alone it admits, where
    folding and lower case tell the characters of both apart alike, the strings that have it up to
    folding anywhere.  So of these strings the two admit the same ones that have no line feeds. -/
theorem like_enclosed_and_plain (hpath : S.resolve e target = .ok path)
    (htype : path.dataType? = some .string) {w : Char} {p : Text} (hw : w ∉ p)
    {enclosed plain : Literal} (henclosed : enclosed.text = w :: (p ++ [w]))
    (hplain : plain.text = p) :
    Builds S e (some w) target .like [enclosed] ∧ Builds S e (some w) target .like [plain] ∧
      ∀ (x : S.Item e) (s : Text), path.read x = some (.string s) →
        (Admits (some w) target .like [enclosed] x ↔
          ∃ a y b, s = a ++ y ++ b ∧ fold y = fold p ∧ '\n' ∉ a ∧ '\n' ∉ b) ∧
        ((∀ c ∈ p, ∀ d ∈ s, CasedAlike c d) →
          (Admits (some w) target .like [plain] x ↔
            ∃ a y b, s = a ++ y ++ b ∧ fold y = fold p) ∧
          ('\n' ∉ s → (Admits (some w) target .like [enclosed] x ↔
            Admits (some w) target .like [plain] x))) := by
  have hnot : ∀ v ∈ some w, v ∉ plain.text := by
    rintro _ ⟨⟩
    rwa [hplain]
  refine ⟨builds_like hpath htype (some w) enclosed, builds_like hpath htype (some w) plain,
    fun x s hread => ?_⟩
  have hleft : Admits (some w) target .like [enclosed] x ↔
      ∃ a y b, s = a ++ y ++ b ∧ fold y = fold p ∧ '\n' ∉ a ∧ '\n' ∉ b := by
    rw [admits_like_iff_of_read hpath htype hread, henclosed, likeTest_enclosed hw]
  refine ⟨hleft, fun halike => ?_⟩
  have hright : Admits (some w) target .like [plain] x ↔
      ∃ a y b, s = a ++ y ++ b ∧ fold y = fold p := by
    rw [admits_like_iff_of_read hpath htype hread, likeTest_plain hnot, hplain,
      hasPart_toLowerCase_iff halike]
  refine ⟨hright, fun hnewline => ?_⟩
  rw [hleft, hright]
  constructor
  · rintro ⟨a, y, b, rfl, hy, -⟩
    exact ⟨a, y, b, rfl, hy⟩
  · rintro ⟨a, y, b, rfl, hy⟩
    simp only [List.mem_append, not_or] at hnewline
    exact ⟨a, y, b, rfl, hy, hnewline.1.1, hnewline.2⟩

/-- ASCII labels without line feeds are found between wildcards as without them. -/
theorem like_enclosed_and_plain_labels :
    Admits (some '*') label .like [.ofQuoted "*OB*".toList] (labelled "bobby".toList) ∧
      Admits (some '*') label .like [.ofQuoted "OB".toList] (labelled "bobby".toList) := by
  have hpath : wares.resolve () label = .ok ⟨label, .field (Field.of Prod.fst)⟩ := rfl
  have henclosed : (Literal.ofQuoted "*OB*".toList).text = '*' :: ("OB".toList ++ ['*']) := rfl
  have htext : (Literal.ofQuoted "OB".toList).text = "OB".toList := rfl
  obtain ⟨-, -, h⟩ := like_enclosed_and_plain hpath rfl (by decide) henclosed htext
  obtain ⟨-, h⟩ := h (labelled "bobby".toList) "bobby".toList rfl
  have hpattern : ∀ c ∈ "OB".toList, c.toNat < 128 := by simp
  have hlabel : ∀ d ∈ "bobby".toList, d.toNat < 128 := by simp
  obtain ⟨hplain, hboth⟩ :=
    h fun c hc d hd => casedAlike_of_ascii (hpattern c hc) (hlabel d hd)
  have hfound : Admits (some '*') label .like [.ofQuoted "OB".toList] (labelled "bobby".toList) :=
    hplain.2 ⟨['b'], ['o', 'b'], ['b', 'y'], rfl, rfl⟩
  exact ⟨(hboth (by decide)).2 hfound, hfound⟩

/-- A line feed in a string is not passed over by a wildcard, but found past by a pattern alone. -/
theorem exists_enclosed_ne_plain :
    ¬ Admits (some '*') label .like [.ofQuoted "*b*".toList] (labelled "a\nb".toList) ∧
      Admits (some '*') label .like [.ofQuoted "b".toList] (labelled "a\nb".toList) := by
  have hpath : wares.resolve () label = .ok ⟨label, .field (Field.of Prod.fst)⟩ := rfl
  have hread : (Path.mk label (.field (Field.of Prod.fst)) : Path wares ()).read
      (labelled "a\nb".toList) = some (.string "a\nb".toList) := rfl
  rw [admits_like_iff_of_read hpath rfl hread, admits_like_iff_of_read hpath rfl hread]
  decide +kernel

/-! ## Patterns without wildcards -/

/-- **A pattern without wildcards finds its text.**  It admits every string that has its text, with
    ASCII letters in either case, between neighbours that keep the sigmas of the text; and if some
    neighbours do not keep them, there are such between which it does not find the text. -/
theorem like_contained (hpath : S.resolve e target = .ok path)
    (htype : path.dataType? = some .string) {p x y : Text} (hpx : sameLetters p x)
    (hyx : sameLetters y x) (hw : ∀ w ∈ wildcard, w ∉ p) (hl : l.text = p) :
    Builds S e wildcard target .like [l] ∧
      (∀ a b, KeepsSigmas a x b → ∀ item : S.Item e,
        path.read item = some (.string (a ++ y ++ b)) → Admits wildcard target .like [l] item) ∧
      ((∃ a b, ¬ KeepsSigmas a x b) → ∃ a b, ∀ item : S.Item e,
        path.read item = some (.string (a ++ y ++ b)) →
          ¬ Admits wildcard target .like [l] item) := by
  have hadmits {a b : Text} {item : S.Item e}
      (hread : path.read item = some (.string (a ++ y ++ b))) :
      Admits wildcard target .like [l] item ↔
        hasPart (toLowerCase x) (toLowerCase (a ++ x ++ b)) := by
    have hvalue : sameLetters (a ++ y ++ b) (a ++ x ++ b) := by
      have hlower := eq_of_beq hyx
      rw [sameLetters, beq_iff_eq]
      simp only [lower, List.map_append] at hlower ⊢
      rw [hlower]
    rw [admits_like_iff_of_read hpath htype hread, likeTest_plain (by rwa [hl]), hl,
      toLowerCase_congr hpx, toLowerCase_congr hvalue]
  refine ⟨builds_like hpath htype wildcard l, fun a b hkeeps item hread => ?_, ?_⟩
  · rw [hadmits hread, hasPart_iff]
    exact infix_toLowerCase hkeeps
  · rintro ⟨a, b, hkeeps⟩
    obtain ⟨a, b, hnot⟩ := exists_not_hasPart hkeeps
    exact ⟨a, b, fun item hread => by rwa [hadmits hread]⟩

/-- A label with other letters around it and in another case. -/
theorem like_contained_labels :
    Admits (some '*') label .like [.ofQuoted "OB".toList] (labelled "boBby".toList) := by
  have hpath : wares.resolve () label = .ok ⟨label, .field (Field.of Prod.fst)⟩ := rfl
  have hwildcard : ∀ w ∈ some '*', w ∉ "OB".toList := by simp
  obtain ⟨-, h, -⟩ := like_contained (l := .ofQuoted "OB".toList) (x := "ob".toList)
    (y := "oB".toList) hpath rfl rfl rfl hwildcard rfl
  exact h "b".toList "by".toList (keepsSigmas_of_not_mem (by decide)) _ rfl

/-- A capital sigma alone ends no word, but it does after a letter. -/
theorem exists_contained_not_found :
    ¬ Admits (some '*') label .like [.ofQuoted "Σ".toList] (labelled ("a".toList ++ "Σ".toList)) := by
  have hpath : wares.resolve () label = .ok ⟨label, .field (Field.of Prod.fst)⟩ := rfl
  have hread : (Path.mk label (.field (Field.of Prod.fst)) : Path wares ()).read
      (labelled ("a".toList ++ "Σ".toList)) = some (.string "aΣ".toList) := rfl
  rw [admits_like_iff_of_read hpath rfl hread]
  decide +kernel

end Filter

end ResourceQuery
