/-
  Resource queries — quoted texts.

  * `Quoted.encode`: a text between double quotes, with a backslash before each double quote
    and each backslash in it.
  * `Quoted.unescape`: a backslash stands for the character after it.  Undoing the escapes
    of a text gives the text back (`unescape_escape`).
  * `Quoted.closing?`: how many characters a quoted text takes after its opening quote; it
    ends at the first such quote that no backslash precedes.
-/
import ResourceQuery.Text.Basic

namespace ResourceQuery.Quoted

/-- One character between quotes. -/
def escapeChar (c : Char) : Text := if c == '\\' || c == '"' then ['\\', c] else [c]

/-- The inside of a quoted text. -/
def escape (t : Text) : Text := t.flatMap escapeChar

/-- The text between double quotes. -/
def encode (t : Text) : Text := ['"'] ++ escape t ++ ['"']

/-- The text without its escapes; a backslash at the end stands for nothing. -/
def unescape : Text → Text
  | [] => []
  | ['\\'] => []
  | '\\' :: c :: t => c :: unescape t
  | c :: t => c :: unescape t

/-- The number of characters up to and including the closing quote. -/
def closing? (quote : Char) : Text → Option Nat
  | [] => none
  | ['\\'] => none
  | '\\' :: _ :: t => (closing? quote t).map (· + 2)
  | c :: t => if c = quote then some 1 else (closing? quote t).map (· + 1)

theorem unescape_escape (t : Text) : unescape (escape t) = t := by
  induction t with
  | nil => rfl
  | cons c t ih =>
    change unescape (escapeChar c ++ escape t) = c :: t
    unfold escapeChar
    split
    · simp [unescape, ih]
    · rename_i h
      simp only [Bool.or_eq_true, beq_iff_eq, not_or] at h
      simp [unescape, h.1, ih]

end ResourceQuery.Quoted
