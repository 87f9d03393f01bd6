/-
  Resource queries — decimal numbers.

  * `Decimal`: the number `digits · 10 ^ (-scale)`.  The scale is kept as it was written, so
    `1.5` and `1.50` are two decimals of one number.
  * `Decimal.cmp`: the order of the numbers.  It compares the positions of the leading
    digits first and the digits, aligned to one width, second; no power of ten larger than
    the texts of the two numbers is ever formed.
  * `Decimal.toInt64?`: the integer a decimal denotes, when it is one of 64 bits.
  * `Decimal.lowestTerms`: digits and exponent without trailing zeros.
-/
import ResourceQuery.Text.Numeral

namespace ResourceQuery

/-- The decimal number `digits · 10 ^ (-scale)`. -/
structure Decimal where
  digits : Int
  scale : Int64
deriving DecidableEq, Inhabited

namespace Decimal

/-- An integer as a decimal. -/
def ofInt (i : Int) : Decimal := ⟨i, 0⟩

/-- How many digits the unscaled number has. -/
def width (d : Decimal) : Nat := (Numeral.digits d.digits.natAbs).length

/-! ## Order -/

/-- The position of the leading digit, counted from the decimal point. -/
def leading (d : Decimal) : Int := d.width - d.scale.toInt

/-- The order of the absolute values. -/
def cmpMagnitude (a b : Decimal) : Ordering :=
  if a.digits = 0 ∨ b.digits = 0 then compare a.digits.natAbs b.digits.natAbs
  else (compare a.leading b.leading).then <|
    compare (a.digits.natAbs * Numeral.tenTo (b.width - a.width))
      (b.digits.natAbs * Numeral.tenTo (a.width - b.width))

/-- The order of the numbers. -/
def cmp (a b : Decimal) : Ordering :=
  if a.digits < 0 then
    if b.digits < 0 then cmpMagnitude b a else .lt
  else if b.digits < 0 then .gt
  else cmpMagnitude a b

/-- Whether two decimals are the same number. -/
def same (a b : Decimal) : Bool := cmp a b == .eq

/-! ## Integers and lowest terms -/

/-- The integer of 64 bits that the decimal denotes.  A number with more than 18 zeros after
    its digits is out of range, and a fraction as long as the digits is not zero. -/
def toInt64? (d : Decimal) : Option Int64 :=
  let scale := d.scale.toInt
  if d.digits = 0 then some 0
  else if scale ≤ 0 then
    if -18 ≤ scale then Numeral.int64? (d.digits * Numeral.tenTo scale.natAbs) else none
  else if scale < d.width ∧ d.digits % Numeral.tenTo scale.natAbs = 0 then
    Numeral.int64? (d.digits / Numeral.tenTo scale.natAbs)
  else none

/-- `m · 10 ^ e` with the trailing zeros of `m` moved into the exponent. -/
def stripZeros (m : Nat) (e : Int) : Nat × Int :=
  if h : m ≠ 0 ∧ m % 10 = 0 then stripZeros (m / 10) (e + 1) else (m, e)
termination_by m
decreasing_by omega

/-- Absolute value as digits and exponent, without trailing zeros. -/
def lowestTerms (d : Decimal) : Nat × Int := stripZeros d.digits.natAbs (-d.scale.toInt)

end Decimal

end ResourceQuery
