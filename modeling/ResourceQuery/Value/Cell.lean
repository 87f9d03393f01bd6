/-
  Resource queries — cells of a result.

  * `Cell`: what a row of a result holds in one column.
  * `Value.toCell`: numbers as numbers, and the rest as texts.  A decimal is given as the
    nearest float; one outside the range of floats is given as text, and a float that is no
    finite number as null.
-/
import ResourceQuery.Value.Literal

namespace ResourceQuery

/-- The content of one column in one row. -/
inductive Cell where
  | null
  | string (text : Text)
  | integer (number : Int64)
  | real (number : Float)
  | boolean (truth : Bool)

/-- The cell of a value. -/
def Value.toCell : Value → Cell
  | string t => .string t
  | integer i => .integer i
  | float x => if x.isFinite then .real x else .null
  | decimal d => if d.toFloat.isFinite then .real d.toFloat else .string d.toText
  | boolean b => .boolean b
  | v@(dateTime _) => .string v.literal
  | v@(date _) => .string v.literal

end ResourceQuery
