/-
  Resource queries — text.

  * `Text`: the characters of a text, in order; every reader and printer of the
    library works on it.
  * `Text.byteSize`: the size of the UTF-8 form.  Positions in a query count its bytes.
  * `Text.slice`: the part of a text between two byte positions.
  * `Text.hasPart`: whether one text stands somewhere in another.
  * `Text.split`, `Text.joinWith`: the pieces between the occurrences of a character.
  * `Text.lower`: ASCII letters in lower case, every other character as it is.
  * `Text.withoutMark`: the text after the mark of the byte order that files may begin with.
-/
namespace ResourceQuery

/-- A text is the list of its characters. -/
abbrev Text := List Char

namespace Text

/-- The text as a string, for messages and output. -/
def toString (t : Text) : String := String.ofList t

/-! ## Positions -/

/-- The number of bytes of the UTF-8 form. -/
def byteSize : Text → Nat
  | [] => 0
  | c :: t => c.utf8Size + byteSize t

/-- What is left after the first `n` bytes. -/
def dropBytes : Nat → Text → Text
  | _, [] => []
  | 0, c :: t => c :: t
  | n + 1, c :: t => dropBytes (n + 1 - c.utf8Size) t

/-- The characters within the first `n` bytes. -/
def takeBytes : Nat → Text → Text
  | _, [] => []
  | 0, _ => []
  | n + 1, c :: t => c :: takeBytes (n + 1 - c.utf8Size) t

/-- The characters from byte `start` up to byte `stop`. -/
def slice (t : Text) (start stop : Nat) : Text :=
  takeBytes (stop - start) (dropBytes start t)

@[simp] theorem byteSize_nil : byteSize [] = 0 := rfl

@[simp] theorem byteSize_cons (c : Char) (t : Text) :
    byteSize (c :: t) = c.utf8Size + byteSize t := rfl

@[simp] theorem byteSize_append (s t : Text) :
    byteSize (s ++ t) = byteSize s + byteSize t := by
  induction s with
  | nil => simp
  | cons c s ih => simp [ih, Nat.add_assoc]

/-- Dropping the bytes of a leading part leaves the rest. -/
theorem dropBytes_append (s t : Text) : dropBytes (byteSize s) (s ++ t) = t := by
  induction s with
  | nil => cases t <;> simp [dropBytes]
  | cons c s ih =>
    have hc : 0 < c.utf8Size := c.utf8Size_pos
    obtain ⟨n, hn⟩ : ∃ n, c.utf8Size + byteSize s = n + 1 := ⟨_, (Nat.succ_pred (by omega)).symm⟩
    rw [byteSize_cons, hn, List.cons_append, dropBytes, ← hn, Nat.add_sub_cancel_left, ih]

/-- Taking the bytes of a leading part gives that part. -/
theorem takeBytes_append (s t : Text) : takeBytes (byteSize s) (s ++ t) = s := by
  induction s with
  | nil => cases t <;> simp [takeBytes]
  | cons c s ih =>
    have hc : 0 < c.utf8Size := c.utf8Size_pos
    obtain ⟨n, hn⟩ : ∃ n, c.utf8Size + byteSize s = n + 1 := ⟨_, (Nat.succ_pred (by omega)).symm⟩
    rw [byteSize_cons, hn, List.cons_append, takeBytes, ← hn, Nat.add_sub_cancel_left, ih]

/-- A slice between the bounds of a middle part is that part. -/
theorem slice_append (a s b : Text) :
    slice (a ++ s ++ b) (byteSize a) (byteSize a + byteSize s) = s := by
  rw [slice, List.append_assoc, dropBytes_append, Nat.add_sub_cancel_left, takeBytes_append]

/-! ## Marks -/

/-- The text without a mark of the byte order at its front. -/
def withoutMark : Text → Text
  | '\ufeff' :: t => t
  | t => t

/-! ## Letters -/

/-- ASCII capital letters in lower case, all else unchanged. -/
def lower (t : Text) : Text := t.map Char.toLower

/-- Whether two texts differ at most in the case of ASCII letters. -/
def sameLetters (s t : Text) : Bool := lower s == lower t

/-! ## Parts -/

/-- Whether `part` stands somewhere in the text. -/
def hasPart (part : Text) : Text → Bool
  | [] => part.isEmpty
  | c :: t => part.isPrefixOf (c :: t) || hasPart part t

/-! ## Pieces -/

/-- The pieces between the occurrences of `sep`; at least one, and one more than there are
    occurrences. -/
def split (sep : Char) : Text → List Text
  | [] => [[]]
  | c :: t =>
    if c = sep then [] :: split sep t
    else match split sep t with
      | [] => [[c]]
      | piece :: pieces => (c :: piece) :: pieces

/-- The pieces with `sep` between any two of them. -/
def joinWith (sep : Text) : List Text → Text
  | [] => []
  | [piece] => piece
  | piece :: pieces => piece ++ sep ++ joinWith sep pieces

theorem split_ne_nil (sep : Char) (t : Text) : split sep t ≠ [] := by
  cases t with
  | nil => simp [split]
  | cons c t =>
    rw [split]
    split
    · simp
    · split <;> simp

/-- Joining the pieces gives the text back. -/
theorem joinWith_split (sep : Char) (t : Text) : joinWith [sep] (split sep t) = t := by
  induction t with
  | nil => rfl
  | cons c t ih =>
    rw [split]
    split
    · rename_i h
      subst h
      cases hs : split c t with
      | nil => exact absurd hs (split_ne_nil c t)
      | cons p ps => rw [hs] at ih; simp [joinWith, ih]
    · cases hs : split sep t with
      | nil => exact absurd hs (split_ne_nil sep t)
      | cons p ps =>
        rw [hs] at ih
        cases ps with
        | nil => simpa [joinWith] using ih
        | cons q qs => simpa [joinWith] using ih

end Text

end ResourceQuery
