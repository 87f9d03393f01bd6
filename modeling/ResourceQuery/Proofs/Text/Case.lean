/-
  Resource queries — texts without their case.

  * `foldChar_eq_newline`: nothing but a line feed is folded to one.
  * `hasPart_iff`: a part of a text is an infix of it.
  * `lowerIn`: the lower case of a text between what stands before it and after it.
  * `toLowerCase_congr`: the case of ASCII letters makes no difference.
  * `KeepsSigmas`: every capital sigma ends a word between two texts exactly when it does on its
    own.  `infix_toLowerCase`: then the lower case of the text stands in that of the whole.
  * `exists_not_hasPart`: a text whose sigmas depend on what stands around it has neighbours
    between which its lower case is not found.
  * `CasedAlike`: folding and lower case tell two characters apart alike.  `hasPart_toLowerCase_iff`:
    over such characters the parts in lower case are the parts up to folding.
-/
import Mathlib.Order.Nat
import ResourceQuery.Text.Letter
import ResourceQuery.Text.LowerCase

namespace ResourceQuery

/-! ## Folding -/

/-- A mapping that moves characters past `d` does not map others to `d`. -/
theorem CaseRange.apply_ne {ranges : List CaseRange} {c d : Char} (hd : 0 < d.toNat)
    (hranges : ∀ r ∈ ranges, d.toNat < r.first + r.offset) (hc : c ≠ d) : apply ranges c ≠ d := by
  rw [apply]
  cases hfind : ranges.find? (·.covers c.toNat) with
  | none => exact hc
  | some r =>
    intro h
    have hpast := hranges r (List.mem_of_find?_eq_some hfind)
    have hcovers := List.find?_some hfind
    simp only [covers, Bool.and_eq_true, decide_eq_true_eq] at hcovers
    have hfirst := hcovers.1.1
    have htoNat : (Char.ofNat (c.toNat + r.offset).toNat).toNat = d.toNat :=
      congrArg Char.toNat h
    unfold Char.ofNat at htoNat
    by_cases hvalid : (c.toNat + r.offset).toNat.isValidChar
    · rw [dif_pos hvalid] at htoNat
      change (c.toNat + r.offset).toNat = d.toNat at htoNat
      omega
    · rw [dif_neg hvalid] at htoNat
      exact absurd htoNat hd.ne

namespace Text

variable {s t x y a b before after : Text} {c d : Char}

theorem foldChar_eq_newline : foldChar c = '\n' ↔ c = '\n' := by
  have hpast : ∀ r ∈ foldRanges, '\n'.toNat < r.first + r.offset := by decide +kernel
  constructor
  · intro h
    by_contra hc
    rw [foldChar] at h
    split at h
    · have htoNat := toNat_toLower c
      rw [h] at htoNat
      have hnewline : '\n'.toNat = 10 := rfl
      split at htoNat
      · omega
      · exact hc (Char.toNat_inj.1 htoNat.symm)
    · exact CaseRange.apply_ne (by decide) hpast hc h
  · rintro rfl
    rfl

theorem newline_mem_fold : '\n' ∈ fold t ↔ '\n' ∈ t := by
  simp [fold, foldChar_eq_newline]

theorem fold_append (s t : Text) : fold (s ++ t) = fold s ++ fold t := List.map_append

/-! ## Parts -/

theorem hasPart_iff {part : Text} : hasPart part t ↔ part <:+: t := by
  induction t with
  | nil => simp [hasPart]
  | cons c t ih => rw [hasPart, Bool.or_eq_true, ih, List.isPrefixOf_iff_prefix, List.infix_cons_iff]

/-! ## Lower case between two texts -/

/-- The lower case of a text between `before` (nearest character first) and `after`. -/
def lowerIn (before : Text) : Text → Text → Text
  | [], _ => []
  | c :: s, after => lowerChar before c (s ++ after) ++ lowerIn (c :: before) s after

theorem lowerAfter_append (before s t : Text) :
    lowerAfter before (s ++ t) = lowerIn before s t ++ lowerAfter (s.reverse ++ before) t := by
  induction s generalizing before with
  | nil => rfl
  | cons c s ih => simp [lowerAfter, lowerIn, ih]

theorem toLowerCase_eq (t : Text) : toLowerCase t = lowerIn [] t [] := by
  have h := lowerAfter_append [] t []
  rw [List.append_nil] at h
  rw [toLowerCase, h, lowerAfter, List.append_nil]

theorem toLowerCase_append (a x b : Text) : toLowerCase (a ++ x ++ b) =
    lowerIn [] a (x ++ b) ++ lowerIn a.reverse x b ++ lowerAfter (x.reverse ++ a.reverse) b := by
  rw [toLowerCase, List.append_assoc, lowerAfter_append, lowerAfter_append, List.append_nil,
    List.append_assoc]

/-- Only a capital sigma looks at what stands around it. -/
theorem lowerChar_congr {before' after' : Text}
    (h : c = 'Σ' → endsWord before after = endsWord before' after') :
    lowerChar before c after = lowerChar before' c after' := by
  rw [lowerChar, lowerChar]
  by_cases hc : c = 'Σ'
  · rw [h hc]
  · simp [hc]

theorem lowerIn_congr {before' after' : Text}
    (h : ∀ u v, s = u ++ 'Σ' :: v → endsWord (u.reverse ++ before) (v ++ after) =
      endsWord (u.reverse ++ before') (v ++ after')) :
    lowerIn before s after = lowerIn before' s after' := by
  induction s generalizing before before' with
  | nil => rfl
  | cons c s ih =>
    have hc : lowerChar before c (s ++ after) = lowerChar before' c (s ++ after') := by
      refine lowerChar_congr ?_
      rintro rfl
      exact h [] s rfl
    have hs : lowerIn (c :: before) s after = lowerIn (c :: before') s after' := by
      refine ih fun u v hs => ?_
      have hword := h (c :: u) v (by rw [hs, List.cons_append])
      simpa using hword
    rw [lowerIn, lowerIn, hc, hs]

/-- Whether every capital sigma of `x` ends a word between `a` and `b` exactly when it does in `x`
    alone. -/
def KeepsSigmas (a x b : Text) : Prop :=
  ∀ u v, x = u ++ 'Σ' :: v → endsWord (u.reverse ++ a.reverse) (v ++ b) = endsWord u.reverse v

theorem keepsSigmas_of_not_mem (h : 'Σ' ∉ x) : KeepsSigmas a x b := by
  rintro u v rfl
  exact absurd (by simp) h

/-- Where its sigmas are kept, a text has its own lower case within a longer one. -/
theorem infix_toLowerCase (h : KeepsSigmas a x b) :
    toLowerCase x <:+: toLowerCase (a ++ x ++ b) := by
  have hx : lowerIn a.reverse x b = toLowerCase x := by
    rw [toLowerCase_eq]
    refine lowerIn_congr fun u v hx => ?_
    simpa using h u v hx
  rw [toLowerCase_append, hx]
  exact ⟨_, _, rfl⟩

/-! ## ASCII letters -/

theorem isUpper_or_toLower_eq (c : Char) : (65 ≤ c.toNat ∧ c.toNat ≤ 90) ∨ c.toLower = c := by
  have h := toNat_toLower c
  split at h
  · exact .inl ‹_›
  · exact .inr (Char.toNat_inj.1 h)

/-- Outside ASCII nothing changes, and within it letters stay letters. -/
theorem isCased_toLower (c : Char) : isCased c.toLower = isCased c := by
  rcases isUpper_or_toLower_eq c with hupper | h
  · have hlower := toNat_toLower c
    rw [if_pos hupper] at hlower
    have hletter {d : Char} (hd : d.toNat < 128)
        (h : 65 ≤ d.toNat ∧ d.toNat ≤ 90 ∨ 97 ≤ d.toNat ∧ d.toNat ≤ 122) : isCased d := by
      rw [isCased, if_pos hd]
      delta Char.isAlpha Char.isUpper Char.isLower
      simpa [UInt32.le_iff_toNat_le] using h
    rw [hletter (by omega) (by omega), hletter (by omega) (by omega)]
  · rw [h]

/-- No letter is ignorable. -/
theorem isCaseIgnorable_toLower (c : Char) : isCaseIgnorable c.toLower = isCaseIgnorable c := by
  rcases isUpper_or_toLower_eq c with hupper | h
  · have hlower := toNat_toLower c
    rw [if_pos hupper] at hlower
    have hletter {d : Char} (hd : d.toNat < 128)
        (h : 65 ≤ d.toNat ∧ d.toNat ≤ 90 ∨ 97 ≤ d.toNat ∧ d.toNat ≤ 122) :
        isCaseIgnorable d = false := by
      rw [isCaseIgnorable, if_pos hd]
      simp [← Char.toNat_inj]
      omega
    rw [hletter (by omega) (by omega), hletter (by omega) (by omega)]
  · rw [h]

theorem meetsCased_cons (c : Char) (t : Text) :
    meetsCased (c :: t) = if isCaseIgnorable c then meetsCased t else isCased c := by
  rw [meetsCased, List.dropWhile_cons]
  by_cases h : isCaseIgnorable c
  · rw [if_pos h, if_pos h, meetsCased]
  · rw [if_neg h, if_neg h]

theorem meetsCased_lower (t : Text) : meetsCased (lower t) = meetsCased t := by
  induction t with
  | nil => rfl
  | cons c t ih =>
    show meetsCased (c.toLower :: lower t) = _
    rw [meetsCased_cons, meetsCased_cons, ih, isCaseIgnorable_toLower, isCased_toLower]

theorem lowerChar_lower (before : Text) (c : Char) (after : Text) :
    lowerChar (lower before) c.toLower (lower after) = lowerChar before c after := by
  have hword : endsWord (lower before) (lower after) = endsWord before after := by
    rw [endsWord, endsWord, meetsCased_lower, meetsCased_lower]
  rcases isUpper_or_toLower_eq c with hupper | h
  · have hlower := toNat_toLower c
    rw [if_pos hupper] at hlower
    rw [lowerChar, lowerChar, if_pos (by omega), if_pos (by omega), toLower_toLower]
  · rw [h, lowerChar, lowerChar, hword]

theorem lowerIn_lower (before s after : Text) :
    lowerIn (lower before) (lower s) (lower after) = lowerIn before s after := by
  induction s generalizing before with
  | nil => rfl
  | cons c s ih =>
    have happend : lower (s ++ after) = lower s ++ lower after := List.map_append
    show lowerChar (lower before) c.toLower (lower s ++ lower after) ++
      lowerIn (lower (c :: before)) (lower s) (lower after) = _
    rw [← happend, lowerChar_lower, ih, lowerIn]

/-- The case of ASCII letters makes no difference to the lower case. -/
theorem toLowerCase_congr (h : sameLetters s t) : toLowerCase s = toLowerCase t := by
  have hlower (u : Text) : toLowerCase (lower u) = toLowerCase u := by
    rw [toLowerCase_eq, toLowerCase_eq]
    exact lowerIn_lower [] u []
  rw [← hlower s, ← hlower t, eq_of_beq h]

/-! ## Neighbours of sigmas -/

/-- Ignorable characters leave it to what comes after them. -/
theorem meetsCased_append (s t : Text) :
    meetsCased (s ++ t) = if s.all isCaseIgnorable then meetsCased t else meetsCased s := by
  induction s with
  | nil => simp
  | cons c s ih =>
    rw [List.cons_append, meetsCased_cons, meetsCased_cons, ih]
    by_cases hc : isCaseIgnorable c <;> simp [hc]

theorem meetsCased_of_ignorable (h : ∀ c ∈ s, isCaseIgnorable c) : meetsCased s = false := by
  have happend := meetsCased_append s []
  rwa [if_pos (List.all_eq_true.2 h), List.append_nil] at happend

/-- A sigma is a letter with case, so none looks past another. -/
theorem meetsCased_sigma (s t t' : Text) :
    meetsCased (s ++ 'Σ' :: t) = meetsCased (s ++ 'Σ' :: t') := by
  have hsigma : isCaseIgnorable 'Σ' = false := by decide +kernel
  simp [meetsCased_append, meetsCased_cons, hsigma]

theorem not_mem_of_ignorable (h : ∀ c ∈ s, isCaseIgnorable c) : 'Σ' ∉ s := by
  have hsigma : ¬ isCaseIgnorable 'Σ' := by decide +kernel
  exact fun hmem => hsigma (h _ hmem)

theorem lowerIn_append (before s t after : Text) : lowerIn before (s ++ t) after =
    lowerIn before s (t ++ after) ++ lowerIn (s.reverse ++ before) t after := by
  induction s generalizing before with
  | nil => rfl
  | cons c s ih => simp [lowerIn, ih]

theorem lowerChar_sigma (before after : Text) :
    lowerChar before 'Σ' after = [if endsWord before after then 'ς' else 'σ'] := rfl

theorem lowerIn_sigma (before u v after : Text) : lowerIn before (u ++ 'Σ' :: v) after =
    lowerIn before u ('Σ' :: v ++ after) ++
      (if endsWord (u.reverse ++ before) (v ++ after) then 'ς' else 'σ') ::
        lowerIn ('Σ' :: (u.reverse ++ before)) v after := by
  rw [lowerIn_append, lowerIn, lowerChar_sigma, List.singleton_append]

/-- One letter that is exchanged for another is missing among them all. -/
theorem not_infix_of_exchange {e e' : Char} {p q : Text} (hne : e ≠ e') (ha : e' ∉ a)
    (hb : e' ∉ b) : ¬ (p ++ e' :: q) <:+: (a ++ (p ++ e :: q) ++ b) := by
  intro h
  have hcount := h.sublist.count_le e'
  simp only [List.count_append, List.count_cons, List.count_eq_zero.2 ha, List.count_eq_zero.2 hb,
    beq_self_eq_true, beq_eq_false_iff_ne.2 hne, if_true, Bool.false_eq_true, if_false] at hcount
  omega

section

variable {u v : Text}

/-- A sigma that ends a word before a text without letters does not do so before a letter. -/
theorem not_hasPart_before_letter (hv : ∀ c ∈ v, isCaseIgnorable c)
    (hword : endsWord u.reverse v) :
    ¬ hasPart (toLowerCase (u ++ 'Σ' :: v)) (toLowerCase ([] ++ (u ++ 'Σ' :: v) ++ ['a'])) := by
  have hletter : endsWord u.reverse (v ++ ['a']) = false := by
    rw [endsWord, meetsCased_append v, if_pos (List.all_eq_true.2 hv)]
    simp [show meetsCased ['a'] = true from rfl]
  have hu : lowerIn [] u ('Σ' :: v ++ ['a']) = lowerIn [] u ('Σ' :: v) := by
    refine lowerIn_congr fun u' v' _ => ?_
    rw [endsWord, endsWord, List.cons_append, meetsCased_sigma v' _ v]
  have hv' : lowerIn ('Σ' :: u.reverse) v ['a'] = lowerIn ('Σ' :: u.reverse) v [] := by
    refine lowerIn_congr fun u' v' hsplit => ?_
    exact absurd (by simp [hsplit]) (not_mem_of_ignorable hv)
  rw [hasPart_iff, toLowerCase_append, toLowerCase_eq, List.reverse_nil, lowerIn_sigma,
    lowerIn_sigma]
  simp only [List.append_nil, hword, hletter, hu, hv']
  exact not_infix_of_exchange (by decide) (by simp [lowerIn]) (by simp [lowerAfter, lowerChar])

/-- A sigma that has no letter before it ends a word after one. -/
theorem not_hasPart_after_letter (hu : ∀ c ∈ u, isCaseIgnorable c) (hv : meetsCased v = false) :
    ¬ hasPart (toLowerCase (u ++ 'Σ' :: v)) (toLowerCase (['a'] ++ (u ++ 'Σ' :: v) ++ [])) := by
  have hreverse : ∀ c ∈ u.reverse, isCaseIgnorable c := by simpa using hu
  have hword : endsWord u.reverse v = false := by
    rw [endsWord, meetsCased_of_ignorable hreverse, Bool.false_and]
  have hletter : endsWord (u.reverse ++ ['a']) v = true := by
    rw [endsWord, meetsCased_append, if_pos (List.all_eq_true.2 hreverse), hv]
    rfl
  have hu' : lowerIn ['a'] u ('Σ' :: v) = lowerIn [] u ('Σ' :: v) := by
    refine lowerIn_congr fun u' v' hsplit => ?_
    exact absurd (by simp [hsplit]) (not_mem_of_ignorable hu)
  have hv' : lowerIn ('Σ' :: (u.reverse ++ ['a'])) v [] = lowerIn ('Σ' :: u.reverse) v [] := by
    refine lowerIn_congr fun u' v' _ => ?_
    rw [endsWord, endsWord, meetsCased_sigma u'.reverse _ u.reverse]
  rw [hasPart_iff, toLowerCase_append, toLowerCase_eq, List.reverse_singleton, lowerIn_sigma,
    lowerIn_sigma]
  simp only [List.append_nil, hword, hletter, hu', hv']
  exact not_infix_of_exchange (by decide) (by simp [lowerIn, lowerChar]) (by simp [lowerAfter])

end

/-- A text whose sigmas depend on what stands around it is not found between all neighbours. -/
theorem exists_not_hasPart (h : ¬ KeepsSigmas a x b) :
    ∃ a b, ¬ hasPart (toLowerCase x) (toLowerCase (a ++ x ++ b)) := by
  rw [KeepsSigmas] at h
  push Not at h
  obtain ⟨u, v, rfl, hne⟩ := h
  rw [endsWord, endsWord, meetsCased_append, meetsCased_append v] at hne
  by_cases hword : endsWord u.reverse v
  · -- only a letter after the sigma can change it
    obtain ⟨hu, hv⟩ := Bool.and_eq_true_iff.1 hword
    have hignorable : v.all isCaseIgnorable := by
      by_contra hv'
      rw [if_neg hv'] at hne
      split at hne
      · rename_i hu'
        rw [meetsCased_of_ignorable (List.all_eq_true.1 hu')] at hu
        cases hu
      · exact hne rfl
    exact ⟨[], ['a'], not_hasPart_before_letter (List.all_eq_true.1 hignorable) hword⟩
  · -- only a letter before the sigma can change it
    have hown : (meetsCased u.reverse && !meetsCased v) = false := Bool.eq_false_iff.2 hword
    rw [hown, Bool.ne_false_iff, Bool.and_eq_true, Bool.not_eq_true'] at hne
    obtain ⟨hu, hv⟩ := hne
    have hv' : meetsCased v = false := by
      split at hv
      · rename_i hignorable
        exact meetsCased_of_ignorable (List.all_eq_true.1 hignorable)
      · exact hv
    have hignorable : u.reverse.all isCaseIgnorable := by
      by_contra hu'
      rw [if_neg hu'] at hu
      rw [hu, hv'] at hown
      cases hown
    exact ⟨['a'], [], not_hasPart_after_letter (by simpa using hignorable) hv'⟩

/-! ## Characters with case alike -/

/-- The letters that the lower case of a character can have. -/
def lowerLetters (c : Char) : Text := if c = 'Σ' then ['σ', 'ς'] else lowerChar [] c []

/-- Whether folding and lower case tell two characters apart alike: characters that are folded to
    one have the same letters as lower case, and are no capital sigma, and other characters have no
    letter in common. -/
def CasedAlike (c d : Char) : Prop :=
  if foldChar c = foldChar d then c ≠ 'Σ' ∧ d ≠ 'Σ' ∧ lowerLetters c = lowerLetters d
  else ∀ e ∈ lowerLetters c, e ∉ lowerLetters d

instance (c d : Char) : Decidable (CasedAlike c d) := inferInstanceAs (Decidable (ite _ _ _))

/-- What stands around another character than a capital sigma makes no difference to it. -/
theorem lowerChar_of_ne (hc : c ≠ 'Σ') (before after : Text) :
    lowerChar before c after = lowerLetters c := by
  rw [lowerLetters, if_neg hc]
  exact lowerChar_congr fun h => absurd h hc

theorem lowerChar_subset (before : Text) (c : Char) (after : Text) :
    lowerChar before c after ⊆ lowerLetters c := by
  by_cases hc : c = 'Σ'
  · rw [lowerLetters, if_pos hc, hc, lowerChar_sigma]
    split <;> simp
  · rw [lowerChar_of_ne hc]
    exact List.Subset.refl _

theorem nodup_lowerChar (before : Text) (c : Char) (after : Text) :
    (lowerChar before c after).Nodup := by
  rw [lowerChar]
  split_ifs <;> simp

theorem exists_lowerChar_eq_cons (before : Text) (c : Char) (after : Text) :
    ∃ e more, lowerChar before c after = e :: more ∧ e ∈ lowerLetters c := by
  have hne : lowerChar before c after ≠ [] := by
    rw [lowerChar]
    split_ifs <;> simp
  obtain ⟨e, more, hc⟩ := List.exists_cons_of_ne_nil hne
  exact ⟨e, more, hc, lowerChar_subset before c after (hc ▸ List.mem_cons_self)⟩

namespace CasedAlike

theorem lowerChar_eq {before' after' : Text} (h : CasedAlike c d) (hfold : foldChar c = foldChar d) :
    lowerChar before c after = lowerChar before' d after' := by
  rw [CasedAlike, if_pos hfold] at h
  obtain ⟨hc, hd, heq⟩ := h
  rw [lowerChar_of_ne hc, lowerChar_of_ne hd, heq]

/-- Characters with a common letter are folded to one. -/
theorem fold_eq (h : CasedAlike c d) {e : Char} (hc : e ∈ lowerLetters c)
    (hd : e ∈ lowerLetters d) : foldChar c = foldChar d := by
  by_contra hfold
  rw [CasedAlike, if_neg hfold] at h
  exact h e hc hd

end CasedAlike

/-- ASCII characters have case alike. -/
theorem casedAlike_of_ascii (hc : c.toNat < 128) (hd : d.toNat < 128) : CasedAlike c d := by
  have hfold {c : Char} (hc : c.toNat < 128) : foldChar c = c.toLower := if_pos hc
  have hsigma {c : Char} (hc : c.toNat < 128) : c ≠ 'Σ' := by
    rintro rfl
    exact absurd hc (by decide)
  have hletters {c : Char} (hc : c.toNat < 128) : lowerLetters c = [c.toLower] := by
    rw [lowerLetters, if_neg (hsigma hc), lowerChar, if_pos hc]
  rw [CasedAlike, hfold hc, hfold hd, hletters hc, hletters hd]
  split
  · rename_i heq
    rw [heq]
    exact ⟨hsigma hc, hsigma hd, rfl⟩
  · rename_i hne
    simpa using hne

section

variable (h : ∀ c ∈ x, ∀ d ∈ s, CasedAlike c d)
include h

/-- Texts that are folded to one have one lower case. -/
theorem lowerIn_eq_of_fold (hfold : fold s = fold x) {before' after' : Text} :
    lowerIn before s after = lowerIn before' x after' := by
  induction x generalizing s before before' with
  | nil =>
    obtain rfl : s = [] := List.map_eq_nil_iff.1 hfold
    rfl
  | cons c x ih =>
    obtain ⟨d, s, rfl, hd, hs⟩ := List.map_eq_cons_iff.1 hfold
    obtain ⟨hc, hx⟩ := List.forall_mem_cons.1 h
    have hrest : ∀ c ∈ x, ∀ d ∈ s, CasedAlike c d :=
      fun c hc d hd => hx c hc d (List.mem_cons_of_mem _ hd)
    rw [lowerIn, lowerIn, ih hrest hs, (hc d List.mem_cons_self).lowerChar_eq hd.symm]

/-- A text whose lower case begins with that of `x` begins with `x` up to folding. -/
theorem exists_of_prefix_lowerIn (hfront : lowerIn before x after <+: lowerAfter b s) :
    ∃ y t, s = y ++ t ∧ fold y = fold x := by
  induction x generalizing s before b with
  | nil => exact ⟨[], s, rfl, rfl⟩
  | cons c x ih =>
    obtain ⟨e, more, hc, hec⟩ := exists_lowerChar_eq_cons before c (x ++ after)
    rw [lowerIn, hc] at hfront
    cases s with
    | nil => cases List.prefix_nil.1 hfront
    | cons d s =>
      obtain ⟨f, more', hd, hfd⟩ := exists_lowerChar_eq_cons b d s
      rw [lowerAfter, hd, List.cons_append, List.cons_append, List.cons_prefix_cons] at hfront
      obtain ⟨rfl, hfront⟩ := hfront
      -- the two characters begin with one letter, so they have the same letters
      have halike := h c List.mem_cons_self d List.mem_cons_self
      have hfold := halike.fold_eq hec hfd
      obtain rfl : more = more' :=
        (List.cons.inj (hc.symm.trans ((halike.lowerChar_eq hfold).trans hd))).2
      rw [List.prefix_append_right_inj] at hfront
      have hrest : ∀ c ∈ x, ∀ d ∈ s, CasedAlike c d :=
        fun c hc d hd => h c (List.mem_cons_of_mem _ hc) d (List.mem_cons_of_mem _ hd)
      obtain ⟨y, t, rfl, hy⟩ := ih hrest hfront
      refine ⟨d :: y, t, rfl, ?_⟩
      show foldChar d :: fold y = foldChar c :: fold x
      rw [← hfold, hy]

omit h in
theorem infix_of_not_mem {e : Char} {p q : Text} (hwithin : e :: p <:+: q ++ t) (he : e ∉ q) :
    e :: p <:+: t := by
  induction q with
  | nil => exact hwithin
  | cons d q ih =>
    obtain ⟨hd, hq⟩ := not_or.1 (mt List.mem_cons.2 he)
    rw [List.cons_append, List.infix_cons_iff] at hwithin
    rcases hwithin with hfront | hwithin
    · exact absurd (List.cons_prefix_cons.1 hfront).1 hd
    · exact ih hwithin hq

/-- A text whose lower case has that of `x` in it has `x` in it up to folding. -/
theorem exists_of_infix_lowerIn (hwithin : lowerIn before x after <:+: lowerAfter b s) :
    ∃ a y t, s = a ++ y ++ t ∧ fold y = fold x := by
  cases x with
  | nil => exact ⟨[], [], s, rfl, rfl⟩
  | cons c x =>
    obtain ⟨e, more, hc, hec⟩ := exists_lowerChar_eq_cons before c (x ++ after)
    have hnodup : e ∉ more := by
      have hnodup := nodup_lowerChar before c (x ++ after)
      rw [hc, List.nodup_cons] at hnodup
      exact hnodup.1
    induction s generalizing b with
    | nil =>
      rw [lowerIn, hc, lowerAfter, List.infix_nil] at hwithin
      cases hwithin
    | cons d s ih =>
      have hrest : ∀ c' ∈ c :: x, ∀ d ∈ s, CasedAlike c' d :=
        fun c' hc' d hd => h c' hc' d (List.mem_cons_of_mem _ hd)
      have hlater (hwithin : lowerIn before (c :: x) after <:+: lowerAfter (d :: b) s) :
          ∃ a y t, d :: s = a ++ y ++ t ∧ fold y = fold (c :: x) := by
        obtain ⟨a, y, t, rfl, hy⟩ := ih hrest hwithin
        exact ⟨d :: a, y, t, rfl, hy⟩
      by_cases hed : e ∈ lowerLetters d
      · -- the part may begin here, but not within the letters of a character
        have halike := h c List.mem_cons_self d List.mem_cons_self
        have hd : lowerChar b d s = e :: more :=
          (halike.lowerChar_eq (halike.fold_eq hec hed)).symm.trans hc
        have hcons := hwithin
        rw [lowerAfter, hd, List.cons_append, List.infix_cons_iff] at hcons
        rcases hcons with hfront | hrest'
        · have hself : lowerIn before (c :: x) after <+: lowerAfter b (d :: s) := by
            rwa [lowerAfter, hd, List.cons_append]
          obtain ⟨y, t, hy, hfold⟩ := exists_of_prefix_lowerIn h hself
          exact ⟨[], y, t, hy, hfold⟩
        · refine hlater ?_
          rw [lowerIn, hc, List.cons_append] at hrest' ⊢
          exact infix_of_not_mem hrest' hnodup
      · refine hlater ?_
        rw [lowerIn, hc, List.cons_append, lowerAfter] at hwithin
        rw [lowerIn, hc, List.cons_append]
        exact infix_of_not_mem hwithin fun hmem => hed (lowerChar_subset _ _ _ hmem)

/-- The parts in lower case are the parts up to folding. -/
theorem hasPart_toLowerCase_iff :
    hasPart (toLowerCase x) (toLowerCase s) ↔ ∃ a y b, s = a ++ y ++ b ∧ fold y = fold x := by
  rw [hasPart_iff]
  constructor
  · intro hwithin
    rw [toLowerCase_eq x] at hwithin
    exact exists_of_infix_lowerIn h hwithin
  · rintro ⟨a, y, b, rfl, hfold⟩
    have hpart : ∀ c ∈ x, ∀ d ∈ y, CasedAlike c d :=
      fun c hc d hd => h c hc d (List.mem_append_left _ (List.mem_append_right _ hd))
    rw [toLowerCase_append, lowerIn_eq_of_fold hpart hfold, ← toLowerCase_eq]
    exact ⟨_, _, rfl⟩

end

end Text

end ResourceQuery
