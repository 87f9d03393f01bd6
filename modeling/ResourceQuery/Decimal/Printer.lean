/-
  Resource queries — writing decimal numbers.

  * `Decimal.toText`: zero is `0`.  More than five zeros between the point and the first
    digit are written as a negative exponent (`1.5E-7`), more than fifteen zeros after the
    last digit as a positive one (`12e+16`); every other number is written in full.
  * `Decimal.exactText`: the digits and the exponent as they are stored, for an outline.
-/
import ResourceQuery.Decimal.Basic

namespace ResourceQuery.Decimal

/-- Digits with the point before the last `places` of them, filled up with zeros. -/
def placePoint (ds : Text) (places : Nat) : Text :=
  let ds := List.replicate (places + 1 - ds.length) '0' ++ ds
  let whole := ds.length - places
  ds.take whole ++ '.' :: ds.drop whole

/-- One digit, the point and the other digits; a single digit stands without a point. -/
def leadingPoint : Text → Text
  | [] => []
  | [c] => [c]
  | c :: ds => c :: '.' :: ds

/-- An absolute value of `ds` and `scale`. -/
def magnitudeText (ds : Text) (scale : Int) : Text :=
  if scale > ds.length + 5 then
    leadingPoint ds ++ "E-".toList ++ Numeral.ofInt (scale - ds.length + 1)
  else if scale < -15 then ds ++ "e+".toList ++ Numeral.ofInt (-scale)
  else if scale ≤ 0 then ds ++ List.replicate scale.natAbs '0'
  else placePoint ds scale.natAbs

/-- The number as text. -/
def toText (d : Decimal) : Text :=
  if d.digits = 0 then ['0']
  else
    let magnitude := magnitudeText (Numeral.digits d.digits.natAbs) d.scale.toInt
    if d.digits < 0 then '-' :: magnitude else magnitude

/-- The stored digits and exponent. -/
def exactText (d : Decimal) : Text :=
  Numeral.ofInt d.digits ++ 'e' :: Numeral.ofInt (-d.scale.toInt)

end ResourceQuery.Decimal
