/-
  Resource queries — targets.

  * `Target`: the property that a criterion, a sort key or a column names, as a dotted path
    of names in lower case (`address.city`).
  * `Target.read`: the target that a text names, in either case and with blanks around it.
  * `Target.text`: the dotted path.
-/
import ResourceQuery.Error
import ResourceQuery.Text.Blank
import ResourceQuery.Text.Letter

namespace ResourceQuery

/-- The characters of a name: ASCII letters and digits and the underscore. -/
def isNameChar (c : Char) : Bool := c.isAlphanum || c == '_'

/-- Whether a text is a name in lower case. -/
def IsName (t : Text) : Prop := t ≠ [] ∧ t.all isNameChar ∧ Text.lower t = t

instance (t : Text) : Decidable (IsName t) := inferInstanceAs (Decidable (_ ∧ _))

theorem isNameChar_toLower {c : Char} (h : isNameChar c) : isNameChar c.toLower := by
  simp only [isNameChar, Bool.or_eq_true, beq_iff_eq] at *
  rcases h with h | rfl
  · exact .inl (isAlphanum_toLower h)
  · decide

/-- The path from an entity to one of its properties, or to one of another entity that it
    refers to. -/
structure Target where
  names : List Text
  valid : names ≠ [] ∧ ∀ name ∈ names, IsName name
deriving DecidableEq

namespace Target

/-- The target of a single name. -/
def ofName (name : Text) (h : IsName name) : Target :=
  ⟨[name], List.cons_ne_nil _ _, by simpa using h⟩

/-- The dotted path. -/
def text (t : Target) : Text := Text.joinWith ['.'] t.names

/-- Whether the path leads through another entity. -/
def isNested (t : Target) : Bool := 1 < t.names.length

/-- Whether a text names the target, in either case. -/
def isNamed (t : Target) (name : Text) : Bool := Text.sameLetters t.text name

/-! ## Reading -/

/-- What is wrong with one name of a path, if anything. -/
def nameFault? (path name : Text) : Option ParseError.Cause :=
  if name.isEmpty then some (.emptySegment path)
  else (name.find? fun c => !isNameChar c).map fun c => .invalidCharacter c path

/-- What is wrong with the first faulty name of a path, if any. -/
def fault? (path : Text) : Option ParseError.Cause :=
  if path.isEmpty then some .emptyFieldName
  else (Text.split '.' path).findSome? (nameFault? path)

/-- What has no fault is a name once it is in lower case. -/
theorem isName_lower {path name : Text} (h : nameFault? path name = none) :
    IsName (Text.lower name) := by
  unfold nameFault? at h
  split at h
  · cases h
  · rename_i hne
    have h : ∀ c ∈ name, isNameChar c := by simpa using h
    refine ⟨by simpa [Text.lower] using hne, ?_, Text.lower_lower name⟩
    simpa [Text.lower] using fun c hc => isNameChar_toLower (h c hc)

/-- The names of a path without a fault. -/
theorem valid_of_fault? {path : Text} (h : fault? path = none) :
    (Text.split '.' path).map Text.lower ≠ [] ∧
      ∀ name ∈ (Text.split '.' path).map Text.lower, IsName name := by
  unfold fault? at h
  split at h
  · cases h
  · refine ⟨by simpa using Text.split_ne_nil '.' path, fun name hn => ?_⟩
    obtain ⟨piece, hp, rfl⟩ := List.mem_map.1 hn
    exact isName_lower (List.findSome?_eq_none_iff.1 h piece hp)

/-- The target that a text names. -/
def read (t : Text) : Except ParseError Target :=
  match h : fault? (Text.trim t) with
  | some cause => .error { cause }
  | none => .ok ⟨(Text.split '.' (Text.trim t)).map Text.lower, valid_of_fault? h⟩

end Target

end ResourceQuery
