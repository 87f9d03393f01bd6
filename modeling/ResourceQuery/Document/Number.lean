/-
  Resource queries — numbers in documents.

  * `Document.readInteger?`: an integer, to the base ten with an optional sign, or to the base
    sixteen, eight or two without one.
  * `Document.readFloat?`: a number with a fraction, an exponent or both, infinity, or what is
    no number.  A number beyond the range of floats is refused.

  Single underscores may stand between digits, and no needless zero leads a number.
-/
import ResourceQuery.Binary64.Reader
import ResourceQuery.Document.Quoted

namespace ResourceQuery.Document

/-- The digits of a number in which single underscores may stand between digits. -/
def ungrouped? (isDigit : Char → Bool) (t : Text) : Option Text :=
  if (Text.split '_' t).all fun group => !group.isEmpty && group.all isDigit then
    some (t.filter (· != '_'))
  else none

/-- Decimal digits without needless leading zeros. -/
def whole? (t : Text) : Option Text :=
  (ungrouped? Char.isDigit t).bind fun ds =>
    if ds.head? = some '0' ∧ 1 < ds.length then none else some ds

/-- Splits a sign off. -/
def splitSign : Text → Bool × Text
  | '-' :: t => (true, t)
  | '+' :: t => (false, t)
  | t => (false, t)

/-! ## Integers -/

/-- A number to a base of at most sixteen. -/
def based? (base : Nat) (t : Text) : Option Nat := do
  let ds ← ungrouped? (fun c => (hexValue? [c]).any (· < base)) t
  return ds.foldl (fun n c => base * n + (hexValue? [c]).getD 0) 0

/-- An integer. -/
def readInteger? (t : Text) : Option Int :=
  match t with
  | '0' :: 'x' :: t => (based? 16 t).map Int.ofNat
  | '0' :: 'o' :: t => (based? 8 t).map Int.ofNat
  | '0' :: 'b' :: t => (based? 2 t).map Int.ofNat
  | t =>
    let (negative, t) := splitSign t
    (whole? t).map fun ds => if negative then -(Numeral.value ds : Int) else Numeral.value ds

/-! ## Floats -/

/-- The exponent of a float, or nothing. -/
def readExponent? : Text → Option Int
  | [] => some 0
  | c :: t =>
    if c == 'e' || c == 'E' then
      let (negative, t) := splitSign t
      (ungrouped? Char.isDigit t).map fun ds =>
        if negative then -(Numeral.value ds : Int) else Numeral.value ds
    else none

/-- A float with a fraction, an exponent or both. -/
def readFinite? (negative : Bool) (t : Text) : Option Float := do
  let mantissa := t.takeWhile fun c => c != 'e' && c != 'E'
  let exponent := t.dropWhile fun c => c != 'e' && c != 'E'
  let ds ← whole? (mantissa.takeWhile (· != '.'))
  let fraction ← match mantissa.dropWhile (· != '.') with
    | [] => if exponent.isEmpty then none else some []
    | _ :: f => ungrouped? Char.isDigit f
  let e ← readExponent? exponent
  let x := Binary64.nearestSigned negative (Numeral.value (ds ++ fraction)) (e - fraction.length)
  if x.isFinite then some x else none

/-- A float. -/
def readFloat? (t : Text) : Option Float :=
  let (negative, t) := splitSign t
  if t = "inf".toList then some (RealText.infinite negative).toFloat
  else if t = "nan".toList then some RealText.nan.toFloat
  else readFinite? negative t

end ResourceQuery.Document
