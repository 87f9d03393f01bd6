/-
  Resource queries — numerals.

  * `Numeral.digits`: the decimal digits of a natural number, without leading zeros.
  * `Numeral.value`: the number that a run of digits denotes.
  * `Numeral.tenTo`: the powers of ten.
  * `Numeral.readNat?`: a non-empty run of digits and nothing else.
  * `Numeral.readInt?`: the same after at most one sign.
  * `Numeral.readInt64?`, `Numeral.readUInt64?`: within the range of the word.

  Only the ASCII digits count; blanks and separators between digits are refused.
-/
import ResourceQuery.Text.Basic

namespace ResourceQuery.Numeral

/-- The decimal digits of `n`, the leading one first. -/
def digits (n : Nat) : Text := Nat.toDigits 10 n

/-- The digits of `n` after as many zeros as make up `width` characters. -/
def padded (width n : Nat) : Text :=
  let ds := digits n
  List.replicate (width - ds.length) '0' ++ ds

/-- The decimal digits of `i`, after a minus sign when it is negative. -/
def ofInt : Int → Text
  | .ofNat n => digits n
  | .negSucc n => '-' :: digits (n + 1)

/-- The power of ten with `n` zeros. -/
def tenTo (n : Nat) : Nat := Nat.pow 10 n

/-- The number denoted by a run of digits. -/
def value (ds : Text) : Nat := ds.foldl (fun n d => 10 * n + (d.toNat - 48)) 0

/-- Reads a non-empty run of digits. -/
def readNat? (t : Text) : Option Nat :=
  if !t.isEmpty && t.all Char.isDigit then some (value t) else none

/-- Reads an optional sign and a non-empty run of digits. -/
def readInt? : Text → Option Int
  | '-' :: t => (readNat? t).map fun n => -(n : Int)
  | '+' :: t => (readNat? t).map Int.ofNat
  | t => (readNat? t).map Int.ofNat

/-- The word that holds `i`, when one does. -/
def int64? (i : Int) : Option Int64 :=
  if -9223372036854775808 ≤ i ∧ i ≤ 9223372036854775807 then some (Int64.ofInt i) else none

/-- Reads a signed integer of 64 bits. -/
def readInt64? (t : Text) : Option Int64 := (readInt? t).bind int64?

/-- Reads an unsigned integer of 64 bits; a plus sign may precede it. -/
def readUInt64? (t : Text) : Option UInt64 :=
  let ds := match t with
    | '+' :: ds => ds
    | ds => ds
  (readNat? ds).bind fun n => if n ≤ 18446744073709551615 then some (UInt64.ofNat n) else none

end ResourceQuery.Numeral
