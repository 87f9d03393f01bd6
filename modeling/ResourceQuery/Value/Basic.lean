/-
  Resource queries — values.

  * `Value`: a value of one of the data types, as a literal in a query or as what an item
    holds in a property.
  * `Value.same`: equality of what is denoted.  Decimals are compared as numbers, whatever
    their scale; floats as numbers too, so that a NaN differs from itself and the two zeros
    are one.  Two values that are equal in the logic can differ in this sense only at a NaN.
  * `Value.cmp?`: the order of two values of one type; none across types and at a NaN.
  * `DataType.default`: what a property holds that has not been set.
-/
import ResourceQuery.Calendar.Instant
import ResourceQuery.DataType
import ResourceQuery.Decimal.Basic

namespace ResourceQuery

/-- A value of one of the data types. -/
inductive Value where
  | string (text : Text)
  | integer (number : Int64)
  | float (number : Float)
  | decimal (number : Decimal)
  | boolean (truth : Bool)
  | dateTime (instant : Instant)
  | date (day : Date)
deriving DecidableEq

/-- The value of a property that has not been set. -/
def DataType.default : DataType → Value
  | .string => .string []
  | .integer => .integer 0
  | .float => .float 0.0
  | .decimal => .decimal (.ofInt 0)
  | .boolean => .boolean false
  | .dateTime => .dateTime .epoch
  | .date => .date .epoch

namespace Value

/-- The type of a value. -/
def dataType : Value → DataType
  | string _ => .string
  | integer _ => .integer
  | float _ => .float
  | decimal _ => .decimal
  | boolean _ => .boolean
  | dateTime _ => .dateTime
  | date _ => .date

@[simp] theorem dataType_default (t : DataType) : t.default.dataType = t := by
  cases t <;> rfl

/-- The text of a string. -/
def text? : Value → Option Text
  | string t => some t
  | _ => none

/-- Whether two values denote the same. -/
def same : Value → Value → Bool
  | string a, string b => a == b
  | integer a, integer b => a == b
  | float a, float b => a == b
  | decimal a, decimal b => a.same b
  | boolean a, boolean b => a == b
  | dateTime a, dateTime b => a == b
  | date a, date b => a == b
  | _, _ => false

/-! ## Order -/

/-- The order of two texts by their characters' numbers, which is that of their UTF-8 bytes. -/
def cmpText : Text → Text → Ordering
  | [], [] => .eq
  | [], _ :: _ => .lt
  | _ :: _, [] => .gt
  | c :: s, d :: t => (compare c.toNat d.toNat).then (cmpText s t)

/-- The order of two floats; none when one of them is no number. -/
def cmpFloat? (a b : Float) : Option Ordering :=
  if a < b then some .lt
  else if a == b then some .eq
  else if b < a then some .gt
  else none

/-- The order of two values of one type; false comes before true. -/
def cmp? : Value → Value → Option Ordering
  | string a, string b => some (cmpText a b)
  | integer a, integer b => some (compare a.toInt b.toInt)
  | float a, float b => cmpFloat? a b
  | decimal a, decimal b => some (a.cmp b)
  | boolean a, boolean b => some (compare a.toNat b.toNat)
  | dateTime a, dateTime b => some (a.cmp b)
  | date a, date b => some (a.cmp b)
  | _, _ => none

/-- Whether the first value is known to be less. -/
def isLess (a b : Value) : Bool := cmp? a b == some .lt

/-- Whether the first value is known to be greater. -/
def isGreater (a b : Value) : Bool := cmp? a b == some .gt

/-- Whether the first value is known to be less or equal. -/
def isAtMost (a b : Value) : Bool := cmp? a b == some .lt || cmp? a b == some .eq

/-- Whether the first value is known to be greater or equal. -/
def isAtLeast (a b : Value) : Bool := cmp? a b == some .gt || cmp? a b == some .eq

end Value

end ResourceQuery
