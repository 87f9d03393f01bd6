/-
  Resource queries — the shortest text of a floating-point number.

  * `Binary64.decode`: a finite number other than zero as `m · 2 ^ q`.
  * `Binary64.shortest`: the fewest digits that read back as the same number, and of those
    the nearest; of two equally near ones the larger.
  * `Binary64.toText`: those digits written in full, without an exponent and without a point
    where there is no fraction.

  The numbers that read back as `m · 2 ^ q` lie between its two half-way neighbours, ends
  included when `m` is even.  On a grid of powers of ten only the two neighbours of the
  number itself can be the nearest in that interval, so each grid is settled by two tests in
  exact arithmetic.
-/
import ResourceQuery.Decimal.Basic
import ResourceQuery.Decimal.Printer

namespace ResourceQuery.Binary64

/-- The weight of the leading bit of a mantissa, which is not stored: the 52nd power of two. -/
def hiddenBit : Nat := 4503599627370496

/-- Mantissa and exponent of a finite number: its absolute value is `m · 2 ^ q`. -/
def decode (x : Float) : Nat × Int :=
  let bits : Nat := x.toBits.toNat
  let field : Nat := bits / hiddenBit % 2048
  let fraction : Nat := bits % hiddenBit
  if field = 0 then (fraction, -1074) else (fraction + hiddenBit, (field : Int) - 1075)

/-- The exponent of the leading decimal digit of `n / d`, for positive `n` and `d`. -/
def leadingExponent (n d : Nat) : Int :=
  if d ≤ n then (Numeral.digits (n / d)).length - 1
  else
    let places := (Numeral.digits (d / n)).length
    if d ≤ n * Numeral.tenTo (places - 1) then -(places - 1 : Int) else -(places : Int)

/-- The digits and the exponent of the shortest decimal for `m · 2 ^ q`, where `m` is not
    zero.  Everything is counted in quarters of `2 ^ q`. -/
def shortest (m : Nat) (q : Int) : Nat × Int :=
  let up : Nat := Nat.pow 2 (q - 2).toNat
  let down : Nat := Nat.pow 2 (2 - q).toNat
  let lower := if m = hiddenBit ∧ q > -1074 then 4 * m - 1 else 4 * m - 2
  let upper := 4 * m + 2
  let top := leadingExponent (4 * m * up) down
  let onGrid (n : Nat) : Option (Nat × Int) :=
    let k := top - n
    let unit := Numeral.tenTo k.toNat * down
    let place (v : Nat) : Nat := v * up * Numeral.tenTo (-k).toNat
    let hits (c : Nat) : Bool :=
      if m % 2 = 0 then place lower ≤ c * unit && c * unit ≤ place upper
      else place lower < c * unit && c * unit < place upper
    let below := place (4 * m) / unit
    let rest := place (4 * m) % unit
    match hits below, hits (below + 1) with
    | true, true => some (if 2 * rest < unit then below else below + 1, k)
    | true, false => some (below, k)
    | false, true => some (below + 1, k)
    | false, false => none
  match (List.range 17).findSome? onGrid with
  | some (c, k) => Decimal.stripZeros c k
  | none => (4 * m * up / down, 0)

/-- `c · 10 ^ k` in full. -/
def positional (c : Nat) (k : Int) : Text :=
  let ds := Numeral.digits c
  if k < 0 then Decimal.placePoint ds k.natAbs else ds ++ List.replicate k.natAbs '0'

/-- The absolute value of a finite number as text. -/
def magnitudeText (x : Float) : Text :=
  let (m, q) := decode x
  if m = 0 then ['0']
  else
    let (c, k) := shortest m q
    positional c k

/-- Whether the sign bit is set. -/
def isNegative (x : Float) : Bool := 9223372036854775808 ≤ x.toBits.toNat

/-- The number as text: `NaN`, `inf`, `-inf`, or its shortest digits in full. -/
def toText (x : Float) : Text :=
  if x.isNaN then "NaN".toList
  else
    let magnitude := if x.isInf then "inf".toList else magnitudeText x
    if isNegative x then '-' :: magnitude else magnitude

end ResourceQuery.Binary64
