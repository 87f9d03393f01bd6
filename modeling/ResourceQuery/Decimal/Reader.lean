/-
  Resource queries — reading decimal numbers.

  * `Decimal.read?`: digits with at most one sign and one point, then an exponent after `e`
    or `E`.  Underscores may stand between digits, but not first.

  The point is taken out before the sign is looked for, and the places after it are counted
  without underscores.  The scale (places less exponent) has to fit 64 bits.
-/
import ResourceQuery.Decimal.Basic

namespace ResourceQuery.Decimal

/-- Whether a character opens the exponent. -/
def isExponentMark (c : Char) : Bool := c == 'e' || c == 'E'

/-- Digits and underscores, a digit first. -/
def readMagnitude? (t : Text) : Option Nat :=
  if !t.isEmpty && t.head? != some '_' && t.all fun c => c.isDigit || c == '_' then
    some (Numeral.value (t.filter Char.isDigit))
  else none

/-- Digits and underscores after at most one sign. -/
def readUnscaled? : Text → Option Int
  | '-' :: t => (readMagnitude? t).map fun n => -(n : Int)
  | '+' :: t => (readMagnitude? t).map Int.ofNat
  | t => (readMagnitude? t).map Int.ofNat

/-- A mantissa without its point, and the places after the point. -/
def splitPoint (mantissa : Text) : Text × Nat :=
  match mantissa.dropWhile (· != '.') with
  | [] => (mantissa, 0)
  | _ :: fraction =>
    (mantissa.takeWhile (· != '.') ++ fraction, (fraction.filter (· != '_')).length)

/-- Reads a decimal number; nothing may follow it. -/
def read? (t : Text) : Option Decimal := do
  let exponent ← match t.dropWhile fun c => !isExponentMark c with
    | [] => some 0
    | _ :: e => Numeral.readInt? e
  let (unscaled, places) := splitPoint (t.takeWhile fun c => !isExponentMark c)
  let scale ← Numeral.int64? (places - exponent)
  let digits ← readUnscaled? unscaled
  return ⟨digits, scale⟩

end ResourceQuery.Decimal
