/-
  Resource queries — reading floating-point numbers.

  * `RealText`: what a text says about a number: a decimal mantissa with an exponent,
    infinity, or no number at all.
  * `RealText.read?`: the texts of that form, `.5`, `5.` and `1e5` among them.
  * `RealText.toFloat`: the nearest binary number of 64 bits.
-/
import ResourceQuery.Decimal.Basic

namespace ResourceQuery

/-- The content of a text that denotes a real number. -/
inductive RealText where
  | nan
  | infinite (negative : Bool)
  /-- The number `digits · 10 ^ exponent`. -/
  | finite (negative : Bool) (digits : Nat) (exponent : Int)

namespace RealText

/-- Reads an exponent with its mark, or nothing at all. -/
def readExponent? : Text → Option Int
  | [] => some 0
  | c :: t => if c == 'e' || c == 'E' then Numeral.readInt? t else none

/-- Reads digits with at most one point, then an exponent. -/
def readFinite? (negative : Bool) (t : Text) : Option RealText :=
  let whole := t.takeWhile Char.isDigit
  let rest := t.dropWhile Char.isDigit
  let (fraction, rest) := match rest with
    | '.' :: r => (r.takeWhile Char.isDigit, r.dropWhile Char.isDigit)
    | r => ([], r)
  if whole.isEmpty && fraction.isEmpty then none
  else (readExponent? rest).map fun e =>
    finite negative (Numeral.value (whole ++ fraction)) (e - fraction.length)

/-- Reads a text without its sign. -/
def readMagnitude? (negative : Bool) (t : Text) : Option RealText :=
  if Text.sameLetters t "nan".toList then some nan
  else if Text.sameLetters t "inf".toList || Text.sameLetters t "infinity".toList then
    some (infinite negative)
  else readFinite? negative t

/-- Reads a real number after at most one sign; nothing may follow it. -/
def read? : Text → Option RealText
  | '-' :: t => readMagnitude? true t
  | '+' :: t => readMagnitude? false t
  | t => readMagnitude? false t

end RealText

namespace Binary64

/-- The number nearest to `m · 10 ^ e`.  The mantissa is taken without its trailing zeros, so
    that one number has one result, and exponents far outside the range of the type are
    decided by the position of the leading digit alone. -/
def nearest (m : Nat) (e : Int) : Float :=
  let (m, e) := Decimal.stripZeros m e
  let leading := (Numeral.digits m).length + e
  if m = 0 then 0.0
  else if leading > 310 then 1.0 / 0.0
  else if leading < -330 then 0.0
  else if e < 0 then Float.ofScientific m true e.natAbs
  else Float.ofScientific m false e.natAbs

/-- The nearest number with a sign. -/
def nearestSigned (negative : Bool) (m : Nat) (e : Int) : Float :=
  if negative then -nearest m e else nearest m e

end Binary64

/-- The nearest binary number of 64 bits. -/
def RealText.toFloat : RealText → Float
  | nan => 0.0 / 0.0
  | infinite negative => if negative then -1.0 / 0.0 else 1.0 / 0.0
  | finite negative m e => Binary64.nearestSigned negative m e

/-- The nearest binary number of 64 bits to a decimal. -/
def Decimal.toFloat (d : Decimal) : Float :=
  Binary64.nearestSigned (d.digits < 0) d.digits.natAbs (-d.scale.toInt)

end ResourceQuery
