/-
  Resource queries — blanks.

  * `Text.isBlank`: the characters with the Unicode property White_Space.
  * `Text.trim`: a text without the blanks at its two ends.
  * `Text.isGap`: the four blanks that separate tokens in a query.  They are blanks
    (`isBlank_of_isGap`), but a no-break space or a line separator is no gap: it belongs to
    the word it stands in.
-/
import ResourceQuery.Text.Basic

namespace ResourceQuery.Text

/-- The property White_Space. -/
def isBlank (c : Char) : Bool :=
  let n := c.toNat
  (0x09 ≤ n && n ≤ 0x0D) || n == 0x20 || n == 0x85 || n == 0xA0 || n == 0x1680 ||
    (0x2000 ≤ n && n ≤ 0x200A) || n == 0x2028 || n == 0x2029 || n == 0x202F || n == 0x205F ||
    n == 0x3000

/-- A blank between tokens: space, tab, carriage return or line feed. -/
def isGap (c : Char) : Bool := c == ' ' || c == '\t' || c == '\r' || c == '\n'

theorem isBlank_of_isGap {c : Char} (h : isGap c) : isBlank c := by
  simp only [isGap, Bool.or_eq_true, beq_iff_eq] at h
  rcases h with ((rfl | rfl) | rfl) | rfl <;> decide

/-- The text without leading blanks. -/
def trimStart (t : Text) : Text := t.dropWhile isBlank

/-- The text without trailing blanks. -/
def trimEnd (t : Text) : Text := (t.reverse.dropWhile isBlank).reverse

/-- The text without the blanks at its ends. -/
def trim (t : Text) : Text := trimEnd (trimStart t)

end ResourceQuery.Text
