/-
  Resource queries — gaps between tokens mean nothing.

  * `ParseError.Alike`, `Clause.Alike`: errors of one cause and clauses of the same tokens,
    wherever they stand.
  * `readValue_alike` to `readClauses_alike`: from tokens that are the same, wherever they stand,
    every reader gives the same and leaves the same tokens, or gives errors that are alike.
  * `Clause.alike_ofTokens`: such tokens are cut into clauses that are alike.
  * `parse_spaced`: so gaps put in between the tokens of a text change nothing of what is read.
-/
import ResourceQuery.Proofs.Query.Grammar
import ResourceQuery.Proofs.Token.Spacing

namespace ResourceQuery

open Outcome Token

/-- Whether two errors have one cause, in the clause of one number. -/
structure ParseError.Alike (e e' : ParseError) : Prop where
  cause : e.cause = e'.cause
  clause : e.clause = e'.clause

theorem ParseError.alike_located (cause : ParseError.Cause) (p p' : Nat) :
    Alike (.located cause p) (.located cause p') := ⟨rfl, rfl⟩

namespace Clause

/-- Whether two clauses have the same tokens, and end in the same way. -/
structure Alike (c c' : Clause) : Prop where
  tokens : ofLocated c'.tokens = ofLocated c.tokens
  separated : c'.separated = c.separated

/-! ## Clauses -/

theorem forall₂_cut (size size' : Nat) {ts ts' : List Located}
    (h : ofLocated ts' = ofLocated ts) : List.Forall₂ Alike (cut size ts) (cut size' ts') := by
  induction ts generalizing ts' with
  | nil =>
    obtain rfl := ofLocated_eq_nil.1 h
    exact .cons ⟨rfl, rfl⟩ .nil
  | cons t ts ih =>
    obtain ⟨start, stop, us, rfl, hus⟩ := ofLocated_eq_cons.1 h
    obtain ⟨c, cs, hcut, -⟩ := cut_eq_cons size ts
    obtain ⟨c', cs', hcut', -⟩ := cut_eq_cons size' us
    have hrest := ih hus
    rw [cut, cut]
    split
    · exact .cons ⟨rfl, rfl⟩ hrest
    · rw [hcut, hcut'] at hrest ⊢
      obtain ⟨⟨htokens, hseparated⟩, hcs⟩ := List.forall₂_cons.1 hrest
      exact .cons ⟨congrArg (t.token :: ·) htokens, hseparated⟩ hcs

/-- The same tokens are cut into clauses that are alike. -/
theorem alike_ofTokens (size size' : Nat) {ts ts' : List Located}
    (h : ofLocated ts' = ofLocated ts) :
    List.Forall₂ Alike (ofTokens size ts) (ofTokens size' ts') := by
  refine List.rel_filter (fun c c' hc => ?_) (forall₂_cut size size' h)
  have hiff : c'.tokens = [] ↔ c.tokens = [] := by
    rw [← ofLocated_eq_nil, hc.tokens, ofLocated_eq_nil]
  simp [hiff]

end Clause

namespace Query

variable {c c' : Clause} {ts us : List Located} {limit : Nat} {target : Target}

/-! ## Criteria -/

theorem noValue_alike (hc : c.Alike c') (h : ofLocated us = ofLocated ts) :
    (noValue c ts).Alike (noValue c' us) := by
  cases ts with
  | nil =>
    obtain rfl := ofLocated_eq_nil.1 h
    rw [noValue, noValue, hc.separated]
    exact ParseError.alike_located _ _ _
  | cons t ts =>
    obtain ⟨start, stop, us, rfl, -⟩ := ofLocated_eq_cons.1 h
    exact ParseError.alike_located _ _ _

theorem readValue_alike (hc : c.Alike c') (h : ofLocated us = ofLocated ts) :
    Related ParseError.Alike (fun r s => r.1 = s.1 ∧ ofLocated s.2 = ofLocated r.2)
      (readValue c ts) (readValue c' us) := by
  cases ts with
  | nil =>
    obtain rfl := ofLocated_eq_nil.1 h
    exact .error (noValue_alike hc h)
  | cons t ts =>
    obtain ⟨start, stop, us, rfl, hus⟩ := ofLocated_eq_cons.1 h
    rw [readValue, readValue]
    dsimp only
    split
    · exact .ok ⟨rfl, hus⟩
    · exact .error (noValue_alike hc h)

theorem readMoreValues_alike (hc : c.Alike c') {taken : Nat} (h : ofLocated us = ofLocated ts) :
    Related ParseError.Alike (fun r s => r.1 = s.1 ∧ ofLocated s.2 = ofLocated r.2)
      (readMoreValues limit target c taken ts) (readMoreValues limit target c' taken us) := by
  fun_induction readMoreValues limit target c taken ts generalizing us with
  | case1 taken start stop t ts hl =>
    obtain ⟨_, _, us, rfl, hus⟩ := ofLocated_eq_cons.1 h
    obtain ⟨_, _, us, rfl, -⟩ := ofLocated_eq_cons.1 hus
    rw [readMoreValues, hl]
    exact .error (noValue_alike hc hus)
  | case2 taken start stop t ts l hl hlimit =>
    obtain ⟨_, _, us, rfl, hus⟩ := ofLocated_eq_cons.1 h
    obtain ⟨_, _, us, rfl, -⟩ := ofLocated_eq_cons.1 hus
    rw [readMoreValues, hl]
    simp only [if_pos hlimit]
    exact .error (ParseError.alike_located _ _ _)
  | case3 taken start stop t ts l hl hlimit ih =>
    obtain ⟨_, _, us, rfl, hus⟩ := ofLocated_eq_cons.1 h
    obtain ⟨_, _, us, rfl, hrest⟩ := ofLocated_eq_cons.1 hus
    rw [readMoreValues.eq_1, hl]
    simp only [if_neg hlimit]
    exact (ih hrest).map fun r s hrs => ⟨congrArg (l :: ·) hrs.1, hrs.2⟩
  | case4 taken start stop =>
    obtain ⟨_, _, us, rfl, hus⟩ := ofLocated_eq_cons.1 h
    obtain rfl := ofLocated_eq_nil.1 hus
    exact .error (noValue_alike hc rfl)
  | case5 taken ts h₁ h₂ =>
    rw [readMoreValues.eq_3]
    · exact .ok ⟨rfl, h⟩
    · rintro start stop t us rfl
      obtain ⟨_, _, _, rfl, hts⟩ := ofLocated_eq_cons.1 h.symm
      obtain ⟨_, _, _, rfl, -⟩ := ofLocated_eq_cons.1 hts
      exact h₁ _ _ _ _ rfl
    · rintro start stop rfl
      obtain ⟨_, _, _, rfl, hts⟩ := ofLocated_eq_cons.1 h.symm
      obtain rfl := ofLocated_eq_nil.1 hts
      exact h₂ _ _ rfl

theorem readValues_alike (hc : c.Alike c') {op : Operator} (h : ofLocated us = ofLocated ts) :
    Related ParseError.Alike (fun r s => r.1 = s.1 ∧ ofLocated s.2 = ofLocated r.2)
      (readValues limit target op c ts) (readValues limit target op c' us) := by
  unfold readValues
  split
  · cases ts with
    | nil =>
      obtain rfl := ofLocated_eq_nil.1 h
      exact .ok ⟨rfl, rfl⟩
    | cons t ts =>
      obtain ⟨start, stop, us, rfl, -⟩ := ofLocated_eq_cons.1 h
      dsimp only
      split
      · exact .error (ParseError.alike_located _ _ _)
      · exact .ok ⟨rfl, h⟩
  · refine (readValue_alike hc h).bind fun r s hrs => ?_
    refine (readMoreValues_alike hc hrs.2).bind fun r' s' hrs' => ?_
    exact .ok ⟨by rw [hrs.1, hrs'.1], hrs'.2⟩

theorem readCriterion_alike (hc : c.Alike c') (h : ofLocated us = ofLocated ts) :
    Related ParseError.Alike (fun r s => r.1 = s.1 ∧ ofLocated s.2 = ofLocated r.2)
      (readCriterion limit target c ts) (readCriterion limit target c' us) := by
  cases ts with
  | nil =>
    obtain rfl := ofLocated_eq_nil.1 h
    exact .error ⟨rfl, rfl⟩
  | cons t ts =>
    obtain ⟨_, _, us, rfl, hus⟩ := ofLocated_eq_cons.1 h
    obtain ⟨token, start, stop⟩ := t
    cases token with
    | operator op =>
      refine (readValues_alike hc hus).bind fun r s hrs => ?_
      obtain ⟨ls, ts⟩ := r
      obtain ⟨_, us⟩ := s
      obtain ⟨rfl, hrest⟩ := hrs
      dsimp only at hrest ⊢
      cases Criterion.make target op ls with
      | ok criterion => exact .ok ⟨rfl, hrest⟩
      | error e => exact .error ⟨rfl, rfl⟩
    | _ => exact .error ⟨rfl, rfl⟩

/-! ## Directives -/

variable {name : Text}

/-- Whether two arguments are one word, wherever it stands. -/
def Argument.Alike (a b : Argument) : Prop := a.1 = b.1

theorem unclosed_alike (hc : c.Alike c') (cause : Token → ParseError.Cause) :
    (unclosed name c cause).Alike (unclosed name c' cause) := by
  rw [unclosed, unclosed, hc.separated]
  exact ParseError.alike_located _ _ _

theorem readArguments_alike (hc : c.Alike c') {first : Bool} (h : ofLocated us = ofLocated ts) :
    Related ParseError.Alike
      (fun r s => List.Forall₂ Argument.Alike r.1 s.1 ∧ ofLocated s.2 = ofLocated r.2)
      (readArguments name c first ts) (readArguments name c' first us) := by
  fun_induction readArguments name c first ts generalizing us with
  | case1 first =>
    obtain rfl := ofLocated_eq_nil.1 h
    exact .error (unclosed_alike hc _)
  | case2 first t w hw =>
    obtain ⟨_, _, us, rfl, hus⟩ := ofLocated_eq_cons.1 h
    obtain rfl := ofLocated_eq_nil.1 hus
    rw [readArguments, hw]
    exact .error (unclosed_alike hc _)
  | case3 first t hw =>
    obtain ⟨_, _, us, rfl, hus⟩ := ofLocated_eq_cons.1 h
    obtain rfl := ofLocated_eq_nil.1 hus
    rw [readArguments, hw]
    exact .error (ParseError.alike_located _ _ _)
  | case4 first t t' ts hw =>
    obtain ⟨_, _, us, rfl, hus⟩ := ofLocated_eq_cons.1 h
    obtain ⟨_, _, us, rfl, -⟩ := ofLocated_eq_cons.1 hus
    rw [readArguments, hw]
    exact .error (ParseError.alike_located _ _ _)
  | case5 first t t' ts w hw ht' ih =>
    obtain ⟨_, _, us, rfl, hus⟩ := ofLocated_eq_cons.1 h
    obtain ⟨_, _, us, rfl, hrest⟩ := ofLocated_eq_cons.1 hus
    rw [readArguments, hw, ht']
    exact (ih hrest).map fun r s hrs => ⟨.cons rfl hrs.1, hrs.2⟩
  | case6 first t t' ts w hw ht' =>
    obtain ⟨_, _, us, rfl, hus⟩ := ofLocated_eq_cons.1 h
    obtain ⟨_, _, us, rfl, hrest⟩ := ofLocated_eq_cons.1 hus
    rw [readArguments, hw, ht']
    exact .ok ⟨.cons rfl .nil, hrest⟩
  | case7 first t t' ts w hw h₁ h₂ =>
    obtain ⟨_, _, us, rfl, hus⟩ := ofLocated_eq_cons.1 h
    obtain ⟨_, _, us, rfl, -⟩ := ofLocated_eq_cons.1 hus
    rw [readArguments, hw]
    dsimp only
    split
    · rename_i ht'
      exact absurd ht' h₁
    · rename_i ht'
      exact absurd ht' h₂
    · exact .error (ParseError.alike_located _ _ _)

theorem argumentTarget_alike {a b : Argument} (h : a.Alike b) :
    Related ParseError.Alike Eq (argumentTarget a) (argumentTarget b) := by
  rw [argumentTarget, argumentTarget, ← h]
  split
  · exact .ok rfl
  · exact .error ⟨rfl, rfl⟩

theorem argumentKey_alike {a b : Argument} (h : a.Alike b) :
    Related ParseError.Alike Eq (argumentKey a) (argumentKey b) := by
  obtain ⟨w', p'⟩ := b
  have htarget (w : Text) (p : Nat) : Related ParseError.Alike Eq (argumentTarget (w, p))
      (argumentTarget (w, p')) := argumentTarget_alike rfl
  have hkey (direction : Direction) (target target' : Target) (h : target = target') :
      (⟨target, direction⟩ : SortKey) = ⟨target', direction⟩ := by rw [h]
  fun_cases argumentKey a with
  | case1 w p =>
    obtain rfl : '-' :: w = w' := h
    exact (htarget w p).map (hkey .descending)
  | case2 w p =>
    obtain rfl : '+' :: w = w' := h
    exact (htarget w p).map (hkey .ascending)
  | case3 a hminus hplus =>
    obtain ⟨w, p⟩ := a
    obtain rfl : w = w' := h
    rw [argumentKey.eq_3]
    · exact (htarget w p).map (hkey .ascending)
    · rintro w _ ⟨⟩
      exact hminus w p rfl
    · rintro w _ ⟨⟩
      exact hplus w p rfl

theorem argumentCount_alike {a b : Argument} (h : a.Alike b) :
    Related ParseError.Alike Eq (argumentCount a) (argumentCount b) := by
  rw [argumentCount, argumentCount, ← h]
  split
  · exact .ok rfl
  · exact .error ⟨rfl, rfl⟩

theorem mapM_alike {α : Type} {read : Argument → Except ParseError α}
    (hread : ∀ a b, a.Alike b → Related ParseError.Alike Eq (read a) (read b))
    {as bs : List Argument} (h : List.Forall₂ Argument.Alike as bs) :
    Related ParseError.Alike Eq (as.mapM read) (bs.mapM read) := by
  have hresults := Related.mapM h hread
  rwa [List.forall₂_eq_eq_eq] at hresults

theorem readOnce_alike (hc : c.Alike c') {start start' : Nat} {present : Bool}
    (h : ofLocated us = ofLocated ts) :
    Related ParseError.Alike
      (fun r s => List.Forall₂ Argument.Alike r.1 s.1 ∧ ofLocated s.2 = ofLocated r.2)
      (readOnce name start present c ts) (readOnce name start' present c' us) := by
  unfold readOnce
  split
  · exact .error (ParseError.alike_located _ _ _)
  · exact readArguments_alike hc h

theorem readDirective_alike (hc : c.Alike c') {q : Query} {start start' : Nat}
    (h : ofLocated us = ofLocated ts) :
    Related ParseError.Alike (fun r s => r.1 = s.1 ∧ ofLocated s.2 = ofLocated r.2)
      (readDirective q name start c ts) (readDirective q name start' c' us) := by
  unfold readDirective
  split_ifs
  · refine (readOnce_alike hc h).bind fun r s hrs => ?_
    refine (mapM_alike (fun a b => argumentTarget_alike) hrs.1).bind fun as bs hab => ?_
    exact .ok ⟨by rw [hab], hrs.2⟩
  · refine (readOnce_alike hc h).bind fun r s hrs => ?_
    refine (mapM_alike (fun a b => argumentKey_alike) hrs.1).bind fun as bs hab => ?_
    exact .ok ⟨by rw [hab], hrs.2⟩
  · refine (readOnce_alike hc h).bind fun r s hrs => ?_
    refine (mapM_alike (fun a b => argumentCount_alike) hrs.1).bind fun as bs hab => ?_
    subst hab
    split
    · exact .ok ⟨rfl, hrs.2⟩
    · exact .ok ⟨rfl, hrs.2⟩
    · exact .error (ParseError.alike_located _ _ _)
  · exact .error (ParseError.alike_located _ _ _)

/-! ## Clauses -/

theorem readFront_alike (hc : c.Alike c') {maxValues : Nat} {q : Query}
    (h : ofLocated us = ofLocated ts) :
    Related ParseError.Alike (fun r s => r.1 = s.1 ∧ ofLocated s.2 = ofLocated r.2)
      (readFront maxValues q c ts) (readFront maxValues q c' us) := by
  cases ts with
  | nil =>
    obtain rfl := ofLocated_eq_nil.1 h
    exact .error ⟨rfl, rfl⟩
  | cons t ts =>
    obtain ⟨start, stop, us, rfl, hus⟩ := ofLocated_eq_cons.1 h
    rw [readFront, readFront]
    dsimp only
    split
    · refine (argumentTarget_alike (by rfl)).bind fun target _ htarget => ?_
      subst htarget
      refine (readCriterion_alike hc hus).bind fun r s hrs => ?_
      exact .ok ⟨by rw [hrs.1], hrs.2⟩
    · exact readDirective_alike hc hus
    · exact .error (ParseError.alike_located _ _ _)
    · exact .error (ParseError.alike_located _ _ _)

theorem readClause_alike (hc : c.Alike c') {maxValues : Nat} {q : Query} :
    Related ParseError.Alike Eq (readClause maxValues q c) (readClause maxValues q c') := by
  refine (readFront_alike hc hc.tokens).bind fun r s hrs => ?_
  obtain ⟨q', rest⟩ := r
  obtain ⟨_, rest'⟩ := s
  obtain ⟨rfl, hrest⟩ := hrs
  cases rest with
  | nil =>
    obtain rfl := ofLocated_eq_nil.1 hrest
    exact .ok rfl
  | cons t rest =>
    obtain ⟨start, stop, us, rfl, -⟩ := ofLocated_eq_cons.1 hrest
    exact .error (ParseError.alike_located _ _ _)

theorem readClauses_alike {settings : Settings} {text text' : Text} {cs cs' : List Clause}
    (h : List.Forall₂ Clause.Alike cs cs') (index : Nat) (q : Query) :
    Related ParseError.Alike Eq (readClauses settings text index q cs)
      (readClauses settings text' index q cs') := by
  induction h generalizing index q with
  | nil => exact .ok rfl
  | @cons c c' cs cs' hc _ ih =>
    rw [readClauses, readClauses]
    split
    · exact .error (ParseError.alike_located _ _ _)
    · have hread : Related _ _ (readClause settings.maxValues q c) _ := readClause_alike hc
      generalize readClause settings.maxValues q c = x at hread
      generalize readClause settings.maxValues q c' = y at hread
      cases hread with
      | ok hq =>
        subst hq
        exact ih (index + 1) _
      | error he =>
        refine .error ⟨he.cause, ?_⟩
        simp only [ParseError.inClause, he.clause]

/-! ## Texts -/

variable {text text' : Text}

/-- **Gaps between tokens mean nothing.**  A text with further gaps between its tokens has the same
    tokens, and is read as the same query or refused for the same cause, in the clause of the same
    number, when neither of the two is too long. -/
theorem parse_spaced (h : tokenize text = .ok ts) (hs : Text.Spaced (Within ts) 0 text text') :
    (∃ ts', tokenize text' = .ok ts' ∧ ofLocated ts' = ofLocated ts) ∧
      ∀ settings : Settings, Text.byteSize text ≤ settings.maxLength →
        Text.byteSize text' ≤ settings.maxLength →
        (∃ q, parse settings text = .ok q ∧ parse settings text' = .ok q) ∨
          ∃ e e', parse settings text = .error e ∧ parse settings text' = .error e' ∧
            e.cause = e'.cause ∧ e.cause.message = e'.cause.message ∧ e.clause = e'.clause := by
  obtain ⟨ts', h', htokens⟩ := exists_tokenize_iff.2 (tokens?_spaced h hs)
  refine ⟨⟨ts', h', htokens⟩, fun settings hlength hlength' => ?_⟩
  have hblank : (Text.trim text').isEmpty = (Text.trim text).isEmpty := by
    rw [Bool.eq_iff_iff, List.isEmpty_iff, List.isEmpty_iff, Text.trim_eq_nil, Text.trim_eq_nil,
      hs.forall_isBlank_iff]
  have hread : Related ParseError.Alike Eq (parse settings text) (parse settings text') := by
    rw [parse, parse, if_neg hlength.not_gt, if_neg hlength'.not_gt, hblank, h, h']
    split
    · exact .ok rfl
    · exact readClauses_alike (Clause.alike_ofTokens _ _ htokens) 0 .empty
  generalize parse settings text = x at hread
  generalize parse settings text' = y at hread
  cases hread with
  | ok hq => exact .inl ⟨_, rfl, by rw [hq]⟩
  | error he =>
    exact .inr ⟨_, _, rfl, rfl, he.cause, by rw [he.cause], he.clause⟩

/-- Gaps at the two ends of a criterion, and on both sides of its operator. -/
theorem parse_spaced_criterion :
    ∃ q, parse .standard "a=eq=é".toList = .ok q ∧
      parse .standard " a =eq=\té\n".toList = .ok q := by
  have h : tokenize "a=eq=é".toList =
      .ok [⟨.field ['a'], 0, 1⟩, ⟨.operator .equal, 1, 5⟩, ⟨.bare ['é'], 5, 7⟩] := by decide +kernel
  have hs : Text.Spaced
      (Within [⟨.field ['a'], 0, 1⟩, ⟨.operator .equal, 1, 5⟩, ⟨.bare ['é'], 5, 7⟩]) 0
      "a=eq=é".toList " a =eq=\té\n".toList := by
    refine .gap rfl (by decide) (.keep (.gap rfl (by decide) ?_))
    refine .keep (.keep (.keep (.keep (.gap rfl (by decide) ?_))))
    exact .keep (.gap rfl (by decide) .nil)
  have hread : (parse .standard "a=eq=é".toList).isOk = true := by decide +kernel
  rcases (parse_spaced h hs).2 .standard (by decide) (by decide) with hsame | ⟨e, _, he, -⟩
  · exact hsame
  · rw [he] at hread
    cases hread

end Query

end ResourceQuery
