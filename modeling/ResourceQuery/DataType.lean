/-
  Resource queries — data types.

  * `DataType`: the type of a literal or of a scalar property.
  * `DataType.name`: its name in messages.
  * `DataType.isOrdered`: whether values of the type can be less or greater.  Texts and truth
    values are compared for equality only in criteria, though sorting knows an order for them.
-/
namespace ResourceQuery

/-- The type of a literal or of a scalar property. -/
inductive DataType where
  | string
  | integer
  | float
  | decimal
  | boolean
  | dateTime
  | date
deriving DecidableEq, Repr

namespace DataType

/-- Every data type. -/
def all : List DataType := [string, integer, float, decimal, boolean, dateTime, date]

/-- The name in messages. -/
def name : DataType → String
  | string => "string"
  | integer => "integer"
  | float => "float"
  | decimal => "decimal"
  | boolean => "boolean"
  | dateTime => "datetime"
  | date => "date"

/-- Whether criteria may ask for less, greater or between. -/
def isOrdered : DataType → Bool
  | integer | float | decimal | dateTime | date => true
  | string | boolean => false

end DataType

end ResourceQuery
