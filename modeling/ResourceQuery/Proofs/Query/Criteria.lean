/-
  Resource queries — what all criteria have in common.

  * `Criterion.Produced`: the criteria there are: those read from a text, those made of values,
    and those of objects.
  * `Criterion.WellFormed`: the values of a criterion fit its operator, the target is a path of
    names, and a text beside a value is a word that denotes the value and is not its literal.
  * `Target.isLowerNameChar_of_mem_split`: the pieces of a dotted path are names in lower case.
  * `wellFormed_of_produced`: every criterion that there is is well-formed, and any of them are
    built without a position missing.
-/
import ResourceQuery.Proofs.Filter.Positions
import ResourceQuery.Proofs.Introspection

namespace ResourceQuery

open Outcome Token

/-! ## Targets -/

/-- The characters of a name in lower case. -/
def IsLowerNameChar (c : Char) : Prop :=
  ('a' ≤ c ∧ c ≤ 'z') ∨ ('0' ≤ c ∧ c ≤ '9') ∨ c = '_'

/-- A character of a name that lower case leaves as it is. -/
theorem isLowerNameChar_of_toLower {c : Char} (h : isNameChar c) (hlower : c.toLower = c) :
    IsLowerNameChar c := by
  have hle (a b : Char) : a ≤ b ↔ a.toNat ≤ b.toNat := UInt32.le_iff_toNat_le
  simp only [isNameChar, Bool.or_eq_true, isAlphanum_iff, beq_iff_eq] at h
  simp only [IsLowerNameChar, hle]
  have htoNat := toNat_toLower c
  rw [hlower] at htoNat
  rcases h with (hupper | hletter | hdigit) | hunderscore
  · rw [if_pos hupper] at htoNat
    omega
  · exact .inl hletter
  · exact .inr (.inl hdigit)
  · exact .inr (.inr hunderscore)

/-- The pieces of a dotted path are names in lower case. -/
theorem Target.isLowerNameChar_of_mem_split {t : Target} {name : Text}
    (h : name ∈ Text.split '.' t.text) : name ≠ [] ∧ ∀ c ∈ name, IsLowerNameChar c := by
  rw [t.split_text] at h
  obtain ⟨hne, hchars, hlower⟩ := t.valid.2 name h
  refine ⟨hne, fun c hc => ?_⟩
  refine isLowerNameChar_of_toLower (List.all_eq_true.1 hchars c hc) ?_
  have hmap : name.map Char.toLower = name.map id := hlower.trans (List.map_id name).symm
  exact List.map_inj_left.1 hmap c hc

/-! ## Criteria -/

namespace Criterion

/-- The criteria that there are: those that some text is read as under some settings, those that
    are made of a target, an operator and values, and those of objects. -/
inductive Produced : Criterion → Prop
  | read {settings : Settings} {text : Text} {q : Query} {c : Criterion} :
      Query.parse settings text = .ok q → c ∈ q.criteria → Produced c
  | made {target : Target} {op : Operator} {values : List Value} {c : Criterion} :
      ofValues target op values = .ok c → Produced c
  | introspected {Object : Type} {properties : List (ObjectProperty Object)} {o : Object}
      {c : Criterion} : c ∈ (introspect properties o).criteria → Produced c

/-- What holds of all criteria. -/
structure WellFormed (c : Criterion) : Prop where
  /-- There are as many values as the operator takes. -/
  count : c.operator.arity.accepts c.values.length
  /-- Beside every value there is a place for a text, and nowhere else. -/
  places : (c.literals.map Literal.bare).length = c.values.length
  /-- The type is that of the first value. -/
  dataType : c.dataType? = c.values.head?.map Value.dataType
  /-- The target is a dotted path of names in lower case. -/
  names : ∀ name ∈ Text.split '.' c.target.text, name ≠ [] ∧ ∀ ch ∈ name, IsLowerNameChar ch
  /-- The target is what its path names. -/
  target : Target.read c.target.text = .ok c.target
  /-- A text beside a value is a word that denotes the value, but is not the literal of it; and
      the value is not a string. -/
  bare : ∀ i w, c.bareText? i = some w → Lexeme.IsWord w ∧
    ∃ v, c.values[i]? = some v ∧ Value.infer w = v ∧ w ≠ v.literal ∧ v.dataType ≠ .string

end Criterion

/-- Whether the text beside a value, if there is one, is a word that denotes the value, but is
    not the literal of it. -/
def Literal.WellFormed (l : Literal) : Prop :=
  ∀ w, l.bare = some w → Lexeme.IsWord w ∧ Value.infer w = l.value ∧ w ≠ l.value.literal

namespace Literal

theorem wellFormed_ofValue (v : Value) : (ofValue v).WellFormed := by
  intro w hw
  cases hw

theorem wellFormed_ofQuoted (t : Text) : (ofQuoted t).WellFormed := by
  intro w hw
  cases hw

theorem wellFormed_ofWord {w : Text} (hword : Lexeme.IsWord w) : (ofWord w).WellFormed := by
  intro w' hw'
  by_cases hliteral : w = (Value.infer w).literal
  · simp [ofWord, ← hliteral] at hw'
  · obtain rfl : w = w' := by simpa [ofWord, hliteral] using hw'
    exact ⟨hword, rfl, hliteral⟩

/-- A word beside a value is beside no string: a string is its own literal. -/
theorem WellFormed.dataType_ne {l : Literal} (h : l.WellFormed) {w : Text} (hw : l.bare = some w) :
    l.value.dataType ≠ .string := by
  obtain ⟨-, hinfer, hne⟩ := h w hw
  intro htype
  cases hv : l.value with
  | string t =>
    rw [hv] at hinfer hne
    exact hne (Value.eq_of_infer_eq_string hinfer).symm
  | _ => rw [hv] at htype; cases htype

end Literal

namespace Criterion

/-- A criterion is well-formed when its literals are. -/
theorem wellFormed_of_literals {c : Criterion} (h : ∀ l ∈ c.literals, l.WellFormed) :
    c.WellFormed where
  count := by
    rw [values, List.length_map]
    exact c.accepted
  places := by rw [values, List.length_map, List.length_map]
  dataType := by rw [dataType?, values, List.head?_map, Option.map_map]; rfl
  names := fun _ => Target.isLowerNameChar_of_mem_split
  target := c.target.read_text
  bare := by
    intro i w hw
    obtain ⟨l, hl, hbare⟩ := Option.bind_eq_some_iff.1 hw
    have hwell := h l (List.mem_of_getElem? hl)
    obtain ⟨hword, hinfer, hne⟩ := hwell w hbare
    refine ⟨hword, l.value, ?_, hinfer, hne, hwell.dataType_ne hbare⟩
    rw [values, List.getElem?_map, hl]
    rfl

theorem Produced.wellFormed_literal {c : Criterion} (h : c.Produced) :
    ∀ l ∈ c.literals, l.WellFormed := by
  have hvalues {target : Target} {op : Operator} {vs : List Value} {c : Criterion}
      (hc : ofValues target op vs = .ok c) : ∀ l ∈ c.literals, l.WellFormed := by
    intro l hl
    rw [literals_of_ofValues hc] at hl
    obtain ⟨v, -, rfl⟩ := List.mem_map.1 hl
    exact Literal.wellFormed_ofValue v
  cases h with
  | read hq hc =>
    intro l hl
    obtain ⟨ts, t, hts, ht, hwritten⟩ := Query.exists_written_of_parse hq hc hl
    cases hwritten with
    | quoted t => exact Literal.wellFormed_ofQuoted t
    | bare w => exact Literal.wellFormed_ofWord (isWord_of_bare hts ht)
  | made hc => exact hvalues hc
  | introspected hc =>
    obtain ⟨_, -, _, _, _, -, hc⟩ := exists_values_of_introspect hc
    exact hvalues hc

/-- **Criteria are well-formed however they are produced.**  Whether it is read from a text, made
    of values or asked for by an object, a criterion has as many values as its operator takes and
    the type of the first; its target is a dotted path of names in lower case that names it; and
    a text beside a value is a word that denotes the value, is not its literal, and stands beside
    no string.  So building any such criteria by positions finds a value at every position. -/
theorem wellFormed_of_produced {criteria : List Criterion} (h : ∀ c ∈ criteria, c.Produced) :
    (∀ c ∈ criteria, c.WellFormed) ∧
      ∀ (S : Schema) (e : S.Entity) (wildcard : Option Char),
        Filter.buildAt wildcard criteria =
          match (Filter.build wildcard criteria : Except Error (Filter S e)) with
          | .ok f => .ok (f.expression, f.tests.map .ofTest)
          | .error error => .error (.error error) := by
  refine ⟨fun c hc => ?_, fun S e wildcard => Filter.buildAt_eq criteria⟩
  exact wellFormed_of_literals (h c hc).wellFormed_literal

/-- An age between bounds in the wrong order, one of them written with a zero in front. -/
def ageWritten : Criterion :=
  ⟨Filter.ageBetween.target, .between, [.ofWord "30".toList, .ofWord "018".toList], by decide⟩

/-- The age as it is written, and as it is made of values. -/
theorem wellFormed_of_produced_ages :
    ageWritten.bareText? 1 = some "018".toList ∧
      (∀ c ∈ [ageWritten, Filter.ageBetween], c.Produced ∧ c.WellFormed) ∧
      ∃ built, Filter.buildAt (S := Filter.ages) (e := ()) none [ageWritten, Filter.ageBetween] =
        .ok built ∧ built.2.length = 2 := by
  have hread : Query.parse .standard "age=bt=30,018".toList = .ok { criteria := [ageWritten] } := by
    decide +kernel
  have hmade : ofValues Filter.ageBetween.target .between [.integer 30, .integer 18] =
      .ok Filter.ageBetween := by decide +kernel
  have hproduced : ∀ c ∈ [ageWritten, Filter.ageBetween], c.Produced := by
    intro c hc
    rcases List.mem_pair.1 hc with rfl | rfl
    · exact .read hread List.mem_cons_self
    · exact .made hmade
  obtain ⟨hwell, hbuild⟩ := wellFormed_of_produced hproduced
  have hlength : (Filter.build (S := Filter.ages) (e := ()) none
      [ageWritten, Filter.ageBetween]).map (·.tests.length) = .ok 2 := by decide +kernel
  obtain ⟨f, hf, hlength⟩ := map_eq_ok.1 hlength
  have hbuilt := hbuild Filter.ages () none
  rw [hf] at hbuilt
  refine ⟨by decide +kernel, fun c hc => ⟨hproduced c hc, hwell c hc⟩, _, hbuilt, ?_⟩
  rwa [List.length_map]

end Criterion

end ResourceQuery
