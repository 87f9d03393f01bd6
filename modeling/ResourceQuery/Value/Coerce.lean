/-
  Resource queries — conversions of values.

  * `Value.coerce?`: a value as one of another type, when it has a sensible reading there.
    Numbers and days are converted directly; all else goes through the text of the literal.
  * `Value.canonical`: floats as the decimals that an unquoted literal would denote.
-/
import ResourceQuery.Value.Literal

namespace ResourceQuery.Value

/-- The value as one of the type `t`. -/
def coerce? (v : Value) (t : DataType) : Option Value :=
  if v.dataType = t then some v
  else match v, t with
    | integer i, .float => some (float (Binary64.nearestSigned (i.toInt < 0) i.toInt.natAbs 0))
    | integer i, .decimal => some (decimal (.ofInt i.toInt))
    | decimal d, .float => some (float d.toFloat)
    | decimal d, .integer => d.toInt64?.map integer
    | date d, .dateTime => some (dateTime (.midnight d))
    | dateTime i, .date => i.date?.map date
    | v, t => parseAs? v.literal t

/-- The form in which an unquoted literal has the value. -/
def canonical : Value → Value
  | float x =>
    let t := Binary64.toText x
    match Decimal.read? t with
    | some d => decimal d
    | none => string t
  | v => v

end ResourceQuery.Value
