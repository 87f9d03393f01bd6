/-
  Resource queries — decimals read back.

  * `Decimal.reread`: the decimal that the literal of a decimal denotes: the same one where the
    text shows its digits and its scale, and otherwise one with a single place after the point.
    It is the same number (`number_reread`) and has the same literal (`literal_reread`).
  * `Decimal.Notated`: the notations of a decimal, with a point, an exponent or both.
    `Notated.read?_eq`, `notated_literal`: they are read as the decimal, and the literal of a
    decimal is one of `reread`.
-/
import Mathlib.Data.List.TakeWhile
import ResourceQuery.Decimal.Reader
import ResourceQuery.Proofs.Decimal.Number
import ResourceQuery.Value.Literal

namespace ResourceQuery

namespace Decimal

/-- The decimal that the literal of a decimal denotes.  Zero and numbers without a fraction of
    which the literal shows every digit get one place after the point. -/
def reread (d : Decimal) : Decimal :=
  if d.digits = 0 then ⟨0, 1⟩
  else if -15 ≤ d.scale.toInt ∧ d.scale.toInt ≤ 0 then
    ⟨d.digits * Numeral.tenTo (d.scale.toInt.natAbs + 1), 1⟩
  else d

theorem number_reread (d : Decimal) : d.reread.number = d.number := by
  rw [reread]
  split
  · rename_i h
    rw [number_eq_zero.2 h, number_eq_zero]
  split
  · rename_i h
    have hone : (1 : Int64).toInt = 1 := rfl
    have hexponent : -d.scale.toInt = ((d.scale.toInt.natAbs + 1 : ℕ) : ℤ) + -1 := by omega
    rw [number, number, hone, Int.cast_mul, Int.cast_natCast, tenTo_eq, hexponent,
      zpow_add₀ (by norm_num), zpow_natCast, mul_assoc]
  · rfl

/-! ## Reading -/

/-- The sign of a negative number. -/
def signText (i : ℤ) : Text := if i < 0 then ['-'] else []

theorem readMagnitude?_digits {t : Text} (hne : t ≠ []) (h : ∀ c ∈ t, c.isDigit) :
    readMagnitude? t = some (Numeral.value t) := by
  cases t with
  | nil => exact absurd rfl hne
  | cons c t =>
    have hc : c ≠ '_' := by
      rintro rfl
      exact absurd (h '_' List.mem_cons_self) (by decide)
    have hall : (c :: t).all (fun c => c.isDigit || c == '_') := by
      rw [List.all_eq_true]
      intro d hd
      rw [h d hd, Bool.true_or]
    have hfilter : (c :: t).filter Char.isDigit = c :: t := List.filter_eq_self.2 h
    simp [readMagnitude?, hc, hall, hfilter]

theorem readUnscaled?_signed {i : ℤ} {t : Text} (hne : t ≠ []) (h : ∀ c ∈ t, c.isDigit) :
    readUnscaled? (signText i ++ t) =
      some (if i < 0 then -(Numeral.value t : ℤ) else Numeral.value t) := by
  rw [signText]
  split
  · rw [List.singleton_append, readUnscaled?, readMagnitude?_digits hne h]
    rfl
  · obtain ⟨hminus, hplus⟩ := Numeral.head_digits h
    rw [List.nil_append, readUnscaled?.eq_3, readMagnitude?_digits hne h]
    · rfl
    · rintro r rfl
      exact hminus rfl
    · rintro r rfl
      exact hplus rfl

theorem splitPoint_append {w f : Text} (hw : '.' ∉ w) (hf : '_' ∉ f) :
    splitPoint (w ++ '.' :: f) = (w ++ f, f.length) := by
  have hall : ∀ c ∈ w, (c != '.') = true := by
    intro c hc
    rw [bne_iff_ne]
    rintro rfl
    exact hw hc
  have hfilter : f.filter (· != '_') = f := by
    rw [List.filter_eq_self]
    intro c hc
    rw [bne_iff_ne]
    rintro rfl
    exact hf hc
  simp [splitPoint, List.takeWhile_append_of_pos hall, List.dropWhile_append_of_pos hall, hfilter]

theorem splitPoint_eq_self {w : Text} (hw : '.' ∉ w) : splitPoint w = (w, 0) := by
  have hdrop : w.dropWhile (· != '.') = [] := by
    rw [List.dropWhile_eq_nil_iff]
    intro c hc
    rw [bne_iff_ne]
    rintro rfl
    exact hw hc
  rw [splitPoint, hdrop]

/-- What a mantissa and what follows it are read as. -/
theorem read?_append {mantissa tail unscaled : Text} {places : ℕ} {exponent digits : ℤ}
    {scale : Int64} (hm : ∀ c ∈ mantissa, ¬ isExponentMark c)
    (htail : tail = [] ∧ exponent = 0 ∨
      ∃ c t, tail = c :: t ∧ isExponentMark c ∧ Numeral.readInt? t = some exponent)
    (hsplit : splitPoint mantissa = (unscaled, places))
    (hscale : Numeral.int64? (places - exponent) = some scale)
    (hdigits : readUnscaled? unscaled = some digits) :
    read? (mantissa ++ tail) = some ⟨digits, scale⟩ := by
  have hall : ∀ c ∈ mantissa, (!isExponentMark c) = true := by
    intro c hc
    rw [Bool.not_eq_true', Bool.eq_false_iff]
    exact hm c hc
  rw [read?, List.takeWhile_append_of_pos hall, List.dropWhile_append_of_pos hall]
  rcases htail with ⟨rfl, rfl⟩ | ⟨c, t, rfl, hc, ht⟩
  · rw [sub_zero] at hscale
    simp [hsplit, hscale, hdigits]
  · simp [hc, ht, hsplit, hscale, hdigits]

/-! ## Notations -/

/-- How a decimal is written: its sign and its digits, with a point that counts the scale, an
    exponent, or both. -/
inductive Notated : Text → Decimal → Prop
  | point {d : Decimal} {whole fraction : Text} : whole ≠ [] → (∀ c ∈ whole, c.isDigit) →
      (∀ c ∈ fraction, c.isDigit) → Numeral.value (whole ++ fraction) = d.digits.natAbs →
      d.scale.toInt = fraction.length →
      Notated (signText d.digits ++ whole ++ '.' :: fraction) d
  | exponent {d : Decimal} {whole exponent : Text} {mark : Char} {e : ℤ} : whole ≠ [] →
      (∀ c ∈ whole, c.isDigit) → isExponentMark mark → Numeral.readInt? exponent = some e →
      Numeral.value whole = d.digits.natAbs → d.scale.toInt = -e →
      Notated (signText d.digits ++ whole ++ mark :: exponent) d
  | pointExponent {d : Decimal} {whole fraction exponent : Text} {mark : Char} {e : ℤ} :
      whole ≠ [] → (∀ c ∈ whole, c.isDigit) → (∀ c ∈ fraction, c.isDigit) →
      isExponentMark mark → Numeral.readInt? exponent = some e →
      Numeral.value (whole ++ fraction) = d.digits.natAbs →
      d.scale.toInt = fraction.length - e →
      Notated (signText d.digits ++ whole ++ '.' :: fraction ++ mark :: exponent) d

theorem signed_natAbs (i : ℤ) : (if i < 0 then -(i.natAbs : ℤ) else i.natAbs) = i := by
  split <;> omega

/-- A sign and digits, which are all there is in a mantissa without a point. -/
theorem hasOnly_signed {i : ℤ} {ds : Text} (h : ∀ c ∈ ds, c.isDigit) :
    Text.HasOnly ['-'] (signText i ++ ds) := by
  refine .append ?_ (Text.hasOnly_of_digits h)
  rw [signText]
  split
  · exact .cons List.mem_cons_self Text.hasOnly_nil
  · exact Text.hasOnly_nil

theorem not_isExponentMark_of_hasOnly {marks t : Text} (h : Text.HasOnly marks t)
    (he : 'e' ∉ marks) (hE : 'E' ∉ marks) : ∀ c ∈ t, ¬ isExponentMark c := by
  intro c hc hmark
  rw [isExponentMark, Bool.or_eq_true, beq_iff_eq, beq_iff_eq] at hmark
  rcases hmark with rfl | rfl
  · exact h.not_mem rfl he hc
  · exact h.not_mem rfl hE hc

theorem point_not_mem {i : ℤ} {whole : Text} (hwhole : ∀ c ∈ whole, c.isDigit) :
    '.' ∉ signText i ++ whole := (hasOnly_signed hwhole).not_mem rfl (by decide)

theorem splitPoint_signed {i : ℤ} {whole fraction : Text} (hwhole : ∀ c ∈ whole, c.isDigit)
    (hfraction : ∀ c ∈ fraction, c.isDigit) :
    splitPoint (signText i ++ whole ++ '.' :: fraction) =
      (signText i ++ (whole ++ fraction), fraction.length) := by
  have honly : Text.HasOnly [] fraction := Text.hasOnly_of_digits hfraction
  have hunderscore : '_' ∉ fraction := honly.not_mem rfl List.not_mem_nil
  rw [splitPoint_append (point_not_mem hwhole) hunderscore, List.append_assoc]

/-- A notation of a decimal is read as it. -/
theorem Notated.read?_eq {t : Text} {d : Decimal} (h : Notated t d) : read? t = some d := by
  have hint {i : ℤ} (hi : d.scale.toInt = i) : Numeral.int64? i = some d.scale :=
    Numeral.int64?_eq_some.2 hi
  have hpoint {whole fraction : Text} (hwhole : ∀ c ∈ whole, c.isDigit)
      (hfraction : ∀ c ∈ fraction, c.isDigit) :
      ∀ c ∈ signText d.digits ++ whole ++ '.' :: fraction, ¬ isExponentMark c := by
    have hmantissa : Text.HasOnly ['-', '.'] (signText d.digits ++ whole ++ '.' :: fraction) :=
      ((hasOnly_signed hwhole).mono (by simp)).append
        (.cons (by simp) (Text.hasOnly_of_digits hfraction))
    exact not_isExponentMark_of_hasOnly hmantissa (by decide) (by decide)
  have hdigits {ds : Text} (hne : ds ≠ []) (hds : ∀ c ∈ ds, c.isDigit)
      (hv : Numeral.value ds = d.digits.natAbs) :
      readUnscaled? (signText d.digits ++ ds) = some d.digits := by
    rw [readUnscaled?_signed hne hds, hv, signed_natAbs]
  have hboth {whole fraction : Text} (hwhole : ∀ c ∈ whole, c.isDigit)
      (hfraction : ∀ c ∈ fraction, c.isDigit) : ∀ c ∈ whole ++ fraction, c.isDigit := by
    intro c hc
    exact (List.mem_append.1 hc).elim (hwhole c) (hfraction c)
  cases h with
  | point hne hwhole hfraction hv hs =>
    have := read?_append (hpoint hwhole hfraction) (.inl ⟨rfl, rfl⟩)
      (splitPoint_signed hwhole hfraction) (hint (by rw [hs, sub_zero]))
      (hdigits (List.append_ne_nil_of_left_ne_nil hne _) (hboth hwhole hfraction) hv)
    rwa [List.append_nil] at this
  | exponent hne hwhole hmark he hv hs =>
    have hmantissa :=
      not_isExponentMark_of_hasOnly (hasOnly_signed (i := d.digits) hwhole) (by decide) (by decide)
    exact read?_append hmantissa (.inr ⟨_, _, rfl, hmark, he⟩)
      (splitPoint_eq_self (point_not_mem hwhole)) (hint (by rw [hs]; simp)) (hdigits hne hwhole hv)
  | pointExponent hne hwhole hfraction hmark he hv hs =>
    exact read?_append (hpoint hwhole hfraction) (.inr ⟨_, _, rfl, hmark, he⟩)
      (splitPoint_signed hwhole hfraction) (hint hs)
      (hdigits (List.append_ne_nil_of_left_ne_nil hne _) (hboth hwhole hfraction) hv)

end Decimal

/-! ## Literals -/

namespace Numeral

theorem ofInt_of_nonneg {i : ℤ} (h : 0 ≤ i) : ofInt i = digits i.toNat := by
  obtain ⟨n, rfl⟩ := Int.eq_ofNat_of_zero_le h
  rfl

theorem readInt?_minus (n : ℕ) : readInt? ('-' :: digits n) = some (-(n : ℤ)) := by
  rw [readInt?, readNat?_digits]
  rfl

theorem readInt?_plus (n : ℕ) : readInt? ('+' :: digits n) = some (n : ℤ) := by
  rw [readInt?, readNat?_digits]
  rfl

theorem value_append_zeros (ds : Text) (k : ℕ) :
    value (ds ++ List.replicate k '0') = value ds * tenTo k := by
  have hzeros : value (List.replicate k '0') = 0 := by
    simpa using value_zeros k []
  rw [value_append, hzeros, List.length_replicate, Nat.add_zero]

/-- Zeros after the digits of a number multiply it. -/
theorem digits_mul_tenTo {n : ℕ} (hn : n ≠ 0) (k : ℕ) :
    digits (n * tenTo k) = digits n ++ List.replicate k '0' := by
  induction k with
  | zero => simp [tenTo]
  | succ k ih =>
    have hpos : 0 < n * tenTo k := Nat.mul_pos (Nat.pos_of_ne_zero hn) (Nat.pow_pos (by norm_num))
    have hsucc : n * tenTo (k + 1) = 10 * (n * tenTo k) + 0 := by
      simp only [tenTo, Nat.pow_eq]
      ring
    have hzero : Nat.toDigits 10 0 = ['0'] := Nat.toDigits_zero 10
    rw [hsucc, digits, ← Nat.toDigits_append_toDigits (by norm_num) hpos (by norm_num), hzero,
      List.replicate_succ', ← List.append_assoc, ← ih]
    rfl

end Numeral

namespace Text

theorem mem_of_hasPart {part t : Text} (h : hasPart part t) {c : Char} (hc : c ∈ part) :
    c ∈ t := by
  induction t with
  | nil =>
    rw [hasPart, List.isEmpty_iff] at h
    rw [h] at hc
    cases hc
  | cons d t ih =>
    rw [hasPart, Bool.or_eq_true, List.isPrefixOf_iff_prefix] at h
    rcases h with h | h
    · exact h.subset hc
    · exact List.mem_cons_of_mem _ (ih h)

end Text

namespace Value

theorem withPoint_of_mem {t : Text} {c : Char} (hc : c ∈ t) (h : c = '.' ∨ c = 'e' ∨ c = 'E') :
    withPoint t = t := by
  have hany : t.any (fun c => c == '.' || c == 'e' || c == 'E') := by
    refine List.any_eq_true.2 ⟨c, hc, ?_⟩
    rcases h with rfl | rfl | rfl <;> rfl
  rw [withPoint, showsFraction, hany, Bool.true_or, Bool.true_or, if_pos rfl]

/-- Nothing in a sign and digits shows a fraction. -/
theorem withPoint_of_hasOnly {t : Text} (h : Text.HasOnly ['-'] t) :
    withPoint t = t ++ ['.', '0'] := by
  have hany : t.any (fun c => c == '.' || c == 'e' || c == 'E') = false := by
    rw [List.any_eq_false]
    intro c hc
    simp only [Bool.or_eq_true, beq_iff_eq]
    rintro ((rfl | rfl) | rfl)
    · exact h.not_mem rfl (by decide) hc
    · exact h.not_mem rfl (by decide) hc
    · exact h.not_mem rfl (by decide) hc
  have hpart {part : Text} {c : Char} (hc : c ∈ part) (hd : c.isDigit = false)
      (hm : c ∉ ['-']) : Text.hasPart part t = false := by
    rw [Bool.eq_false_iff]
    intro hp
    exact h.not_mem hd hm (Text.mem_of_hasPart hp hc)
  have hinf : Text.hasPart "inf".toList t = false := hpart (c := 'i') (by decide) rfl (by decide)
  have hnan : Text.hasPart "NaN".toList t = false := hpart (c := 'N') (by decide) rfl (by decide)
  rw [withPoint, showsFraction, hany, hinf, hnan]
  rfl

end Value

namespace Decimal

/-- The digits of a decimal without its sign. -/
def digitText (d : Decimal) : Text := Numeral.digits d.digits.natAbs

theorem isDigit_of_mem_digitText {d : Decimal} : ∀ c ∈ d.digitText, c.isDigit :=
  fun _ h => Numeral.isDigit_of_mem_digits h

theorem isDigit_append_zeros {ds : Text} (h : ∀ c ∈ ds, c.isDigit) (k : ℕ) :
    ∀ c ∈ ds ++ List.replicate k '0', c.isDigit := by
  intro c hc
  rcases List.mem_append.1 hc with hc | hc
  · exact h c hc
  · rw [List.eq_of_mem_replicate hc]
    decide

theorem literal_eq {d : Decimal} (h : d.digits ≠ 0) :
    (Value.decimal d).literal =
      Value.withPoint (signText d.digits ++ magnitudeText d.digitText d.scale.toInt) := by
  show Value.withPoint d.toText = _
  rw [toText, if_neg h, signText]
  split <;> rfl

theorem signText_mul {i : ℤ} {n : ℕ} (hn : 0 < n) : signText (i * n) = signText i := by
  have hpos : (0 : ℤ) < n := by exact_mod_cast hn
  have hsign : i * n < 0 ↔ i < 0 := by
    rw [mul_neg_iff]
    constructor
    · rintro (⟨-, h⟩ | ⟨h, -⟩)
      · omega
      · exact h
    · exact fun h => .inr ⟨h, hpos⟩
  simp only [signText, hsign]

theorem tenTo_pos (k : ℕ) : 0 < Numeral.tenTo k := Nat.pow_pos (by norm_num)

/-- The literal of a decimal whose scale its text shows by an exponent. -/
theorem notated_small {d : Decimal} (h : d.digits ≠ 0)
    (hscale : d.scale.toInt > d.digitText.length + 5) : Notated (Value.decimal d).literal d := by
  obtain ⟨c, ds, hds⟩ := List.exists_cons_of_ne_nil (Numeral.digits_ne_nil d.digits.natAbs)
  have hlen : d.digitText.length = ds.length + 1 := by rw [digitText, hds]; rfl
  have hall : ∀ c' ∈ c :: ds, c'.isDigit := by
    rw [← hds]
    exact isDigit_of_mem_digitText
  obtain ⟨hfirst, hdigits⟩ := List.forall_mem_cons.1 hall
  have hc : ∀ c' ∈ [c], c'.isDigit := by
    intro c' hc'
    rw [List.mem_singleton.1 hc']
    exact hfirst
  have hvalue : Numeral.value ([c] ++ ds) = d.digits.natAbs := by
    rw [List.singleton_append, ← hds, Numeral.value_digits]
  set k := (d.scale.toInt - d.digitText.length + 1).toNat with hk
  have hmagnitude : magnitudeText d.digitText d.scale.toInt =
      leadingPoint (c :: ds) ++ 'E' :: '-' :: Numeral.digits k := by
    rw [magnitudeText, if_pos hscale, Numeral.ofInt_of_nonneg (by omega), ← hk, digitText, hds]
    simp
  rw [literal_eq h, hmagnitude, Value.withPoint_of_mem (c := 'E') (by simp) (by simp)]
  cases ds with
  | nil =>
    have hshape : signText d.digits ++ (leadingPoint [c] ++ 'E' :: '-' :: Numeral.digits k) =
        signText d.digits ++ [c] ++ 'E' :: '-' :: Numeral.digits k := by simp [leadingPoint]
    rw [hshape]
    refine .exponent (List.cons_ne_nil _ _) hc rfl (Numeral.readInt?_minus k) hvalue ?_
    simp only [List.length_nil] at hlen
    omega
  | cons c' ds =>
    have hshape : signText d.digits ++
        (leadingPoint (c :: c' :: ds) ++ 'E' :: '-' :: Numeral.digits k) =
        signText d.digits ++ [c] ++ '.' :: (c' :: ds) ++ 'E' :: '-' :: Numeral.digits k := by
      simp [leadingPoint]
    rw [hshape]
    refine .pointExponent (List.cons_ne_nil _ _) hc hdigits rfl (Numeral.readInt?_minus k)
      hvalue ?_
    omega

theorem notated_large {d : Decimal} (h : d.digits ≠ 0) (hscale : d.scale.toInt < -15) :
    Notated (Value.decimal d).literal d := by
  set k := (-d.scale.toInt).toNat with hk
  have hshape : signText d.digits ++ magnitudeText d.digitText d.scale.toInt =
      signText d.digits ++ d.digitText ++ 'e' :: '+' :: Numeral.digits k := by
    rw [magnitudeText, if_neg (by omega), if_pos hscale, Numeral.ofInt_of_nonneg (by omega), ← hk]
    simp
  rw [literal_eq h, hshape, Value.withPoint_of_mem (c := 'e') (by simp) (by simp)]
  refine .exponent (Numeral.digits_ne_nil _) isDigit_of_mem_digitText rfl
    (Numeral.readInt?_plus k) (Numeral.value_digits _) ?_
  omega

/-- The digits of a number whose text shows a fraction, cut where the point stands. -/
theorem exists_placePoint {ds : Text} (hdigits : ∀ c ∈ ds, c.isDigit) (places : ℕ) :
    ∃ whole fraction, placePoint ds places = whole ++ '.' :: fraction ∧ whole ≠ [] ∧
      (∀ c ∈ whole, c.isDigit) ∧ (∀ c ∈ fraction, c.isDigit) ∧
      Numeral.value (whole ++ fraction) = Numeral.value ds ∧ fraction.length = places := by
  set all := List.replicate (places + 1 - ds.length) '0' ++ ds with hall
  have hlen : places < all.length := by
    rw [hall, List.length_append, List.length_replicate]
    omega
  have hmem : ∀ c ∈ all, c.isDigit := by
    intro c hc
    rcases List.mem_append.1 hc with hc | hc
    · rw [List.eq_of_mem_replicate hc]
      decide
    · exact hdigits c hc
  refine ⟨all.take (all.length - places), all.drop (all.length - places), rfl, ?_,
    fun c hc => hmem c (List.mem_of_mem_take hc), fun c hc => hmem c (List.mem_of_mem_drop hc),
    ?_, ?_⟩
  · rw [← List.length_pos_iff, List.length_take]
    omega
  · rw [List.take_append_drop, hall, Numeral.value_zeros]
  · rw [List.length_drop]
    omega

theorem notated_fraction {d : Decimal} (h : d.digits ≠ 0) (hpos : 0 < d.scale.toInt)
    (hscale : d.scale.toInt ≤ d.digitText.length + 5) :
    Notated (Value.decimal d).literal d := by
  obtain ⟨whole, fraction, hplace, hne, hwhole, hfraction, hvalue, hlen⟩ :=
    exists_placePoint (isDigit_of_mem_digitText (d := d)) d.scale.toInt.natAbs
  have hshape : signText d.digits ++ magnitudeText d.digitText d.scale.toInt =
      signText d.digits ++ whole ++ '.' :: fraction := by
    rw [magnitudeText, if_neg (by omega), if_neg (by omega), if_neg (by omega), hplace]
    simp
  rw [literal_eq h, hshape, Value.withPoint_of_mem (c := '.') (by simp) (by simp)]
  refine .point hne hwhole hfraction ?_ (by omega)
  rw [hvalue]
  exact Numeral.value_digits _

/-- The literal of a number without a fraction, of which every digit is shown. -/
theorem literal_whole {d : Decimal} (h : d.digits ≠ 0)
    (hscale : -15 ≤ d.scale.toInt ∧ d.scale.toInt ≤ 0) :
    (Value.decimal d).literal = signText d.digits ++
      (d.digitText ++ List.replicate d.scale.toInt.natAbs '0') ++ '.' :: ['0'] := by
  have hdigits := isDigit_append_zeros (isDigit_of_mem_digitText (d := d)) d.scale.toInt.natAbs
  rw [literal_eq h, magnitudeText, if_neg (by omega), if_neg (by omega), if_pos hscale.2,
    Value.withPoint_of_hasOnly (hasOnly_signed hdigits), List.append_assoc]

theorem notated_whole {d : Decimal} (h : d.digits ≠ 0)
    (hscale : -15 ≤ d.scale.toInt ∧ d.scale.toInt ≤ 0) :
    Notated (Value.decimal d).literal
      ⟨d.digits * Numeral.tenTo (d.scale.toInt.natAbs + 1), 1⟩ := by
  have hone : (1 : Int64).toInt = 1 := rfl
  rw [literal_whole h hscale, ← signText_mul (tenTo_pos (d.scale.toInt.natAbs + 1))]
  refine .point (d := ⟨d.digits * Numeral.tenTo (d.scale.toInt.natAbs + 1), 1⟩) ?_ ?_ ?_ ?_ hone
  · exact List.append_ne_nil_of_left_ne_nil (Numeral.digits_ne_nil _) _
  · exact isDigit_append_zeros isDigit_of_mem_digitText _
  · intro c hc
    rw [List.mem_singleton.1 hc]
    decide
  · have hzeros : d.digitText ++ List.replicate d.scale.toInt.natAbs '0' ++ ['0'] =
        d.digitText ++ List.replicate (d.scale.toInt.natAbs + 1) '0' := by
      rw [List.replicate_succ', List.append_assoc]
    rw [hzeros, Numeral.value_append_zeros, digitText, Numeral.value_digits, Int.natAbs_mul,
      Int.natAbs_natCast]

/-- The literal of a decimal is a notation of what it is read as. -/
theorem notated_literal (d : Decimal) : Notated (Value.decimal d).literal d.reread := by
  rw [reread]
  by_cases hzero : d.digits = 0
  · have hliteral : (Value.decimal d).literal = signText 0 ++ ['0'] ++ '.' :: ['0'] := by
      show Value.withPoint d.toText = _
      rw [toText, if_pos hzero]
      rfl
    rw [if_pos hzero, hliteral]
    exact .point (d := ⟨0, 1⟩) (List.cons_ne_nil _ _) (by simp) (by simp) rfl rfl
  rw [if_neg hzero]
  by_cases hscale : -15 ≤ d.scale.toInt ∧ d.scale.toInt ≤ 0
  · rw [if_pos hscale]
    exact notated_whole hzero hscale
  rw [if_neg hscale]
  by_cases hlarge : d.scale.toInt < -15
  · exact notated_large hzero hlarge
  by_cases hsmall : d.scale.toInt > d.digitText.length + 5
  · exact notated_small hzero hsmall
  · exact notated_fraction hzero (by omega) (by omega)

/-- One place after the point, for a last digit of zero. -/
theorem placePoint_append_zero {ds : Text} (hne : ds ≠ []) :
    placePoint (ds ++ ['0']) 1 = ds ++ '.' :: ['0'] := by
  have hpos : 0 < ds.length := List.length_pos_of_ne_nil hne
  have hlen : 1 + 1 - (ds ++ ['0']).length = 0 := by
    rw [List.length_append, List.length_singleton]
    omega
  have hcut : (ds ++ ['0']).length - 1 = ds.length := by
    rw [List.length_append, List.length_singleton, Nat.add_sub_cancel]
  rw [placePoint, hlen, List.replicate_zero, List.nil_append, hcut, List.take_left, List.drop_left]

/-- Reading a literal and writing it again gives the same literal. -/
theorem literal_reread (d : Decimal) :
    (Value.decimal d.reread).literal = (Value.decimal d).literal := by
  rw [reread]
  by_cases hzero : d.digits = 0
  · have hliteral {d : Decimal} (h : d.digits = 0) : (Value.decimal d).literal = "0.0".toList := by
      show Value.withPoint d.toText = _
      rw [toText, if_pos h]
      rfl
    rw [if_pos hzero, hliteral hzero, hliteral rfl]
  rw [if_neg hzero]
  split
  · rename_i hscale
    set k := d.scale.toInt.natAbs
    set d' : Decimal := ⟨d.digits * Numeral.tenTo (k + 1), 1⟩ with hd'
    have hone : d'.scale.toInt = 1 := rfl
    have hne : d'.digits ≠ 0 :=
      mul_ne_zero hzero (by exact_mod_cast (tenTo_pos (k + 1)).ne')
    have hdigits : d'.digitText = d.digitText ++ List.replicate k '0' ++ ['0'] := by
      rw [digitText, hd', Int.natAbs_mul, Int.natAbs_natCast,
        Numeral.digits_mul_tenTo (Int.natAbs_ne_zero.2 hzero), List.replicate_succ',
        ← List.append_assoc]
      rfl
    have hdigitsne : d.digitText ++ List.replicate k '0' ≠ [] :=
      List.append_ne_nil_of_left_ne_nil (Numeral.digits_ne_nil _) _
    have hlen : 0 < d'.digitText.length := by
      rw [hdigits, List.length_append]
      exact Nat.succ_pos _
    rw [literal_whole hzero hscale, literal_eq hne, hone, magnitudeText, if_neg (by omega),
      if_neg (by omega), if_neg (by omega)]
    show Value.withPoint (signText d'.digits ++ placePoint d'.digitText 1) = _
    rw [hdigits, placePoint_append_zero hdigitsne, signText_mul (tenTo_pos (k + 1)),
      Value.withPoint_of_mem (c := '.') (by simp) (by simp), ← List.append_assoc]
  · rfl

end Decimal

end ResourceQuery
