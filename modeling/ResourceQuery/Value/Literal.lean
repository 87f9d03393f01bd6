/-
  Resource queries — literals.

  * `Value.literal`: the text of a value that depends on nothing but the value.  Decimals and
    floats always carry a point or an exponent, so that they are told from integers.
  * `Value.infer`: the value that an unquoted literal denotes: the first that fits of truth
    value, integer, decimal, date, date-time and string.
  * `Value.parseAs?`: the value of a given type that a text denotes, with blanks around it.
-/
import ResourceQuery.Binary64.Reader
import ResourceQuery.Binary64.Shortest
import ResourceQuery.Calendar.Reader
import ResourceQuery.Decimal.Reader
import ResourceQuery.Value.Basic

namespace ResourceQuery.Value

/-! ## Writing -/

/-- Whether a text shows that a number is no integer: by a point, an exponent, or by not
    being a finite number at all. -/
def showsFraction (t : Text) : Bool :=
  t.any (fun c => c == '.' || c == 'e' || c == 'E') ||
    Text.hasPart "inf".toList t || Text.hasPart "NaN".toList t

/-- The text of a number, with `.0` where nothing shows that it is no integer. -/
def withPoint (t : Text) : Text := if showsFraction t then t else t ++ ".0".toList

/-- The text of a truth value. -/
def booleanText (b : Bool) : Text := if b then "true".toList else "false".toList

/-- The text of a value. -/
def literal : Value → Text
  | string t => t
  | integer i => Numeral.ofInt i.toInt
  | float x => withPoint (Binary64.toText x)
  | decimal d => withPoint d.toText
  | boolean b => booleanText b
  | dateTime i => i.toText
  | date d => d.toText

/-! ## Reading -/

/-- Reads a truth value in either case. -/
def readBoolean? (t : Text) : Option Bool :=
  if Text.sameLetters t "true".toList then some true
  else if Text.sameLetters t "false".toList then some false
  else none

/-- Whether a literal may be a decimal: it has a digit, and a point or an exponent mark. -/
def looksDecimal (t : Text) : Bool :=
  t.any (fun c => c == '.' || c == 'e' || c == 'E') && t.any Char.isDigit

/-- The decimal that an unquoted literal denotes. -/
def readDecimal? (t : Text) : Option Decimal := if looksDecimal t then Decimal.read? t else none

/-- The value of an unquoted literal that is not a string. -/
def inferTyped? (t : Text) : Option Value :=
  (readBoolean? t).map boolean <|> (Numeral.readInt64? t).map integer <|>
    (readDecimal? t).map decimal <|> (Date.read? t).map date <|> (Instant.read? t).map dateTime

/-- The value of an unquoted literal. -/
def infer (t : Text) : Value := (inferTyped? t).getD (string t)

/-- The value of the given type that a text denotes.  A day is read as the instant it begins
    at, and an instant as a day only when the day begins at it. -/
def parseAs? (t : Text) : DataType → Option Value
  | .string => some (string t)
  | .integer => (Numeral.readInt64? (Text.trim t)).map integer
  | .float => (RealText.read? (Text.trim t)).map fun r => float r.toFloat
  | .decimal => (Decimal.read? (Text.trim t)).map decimal
  | .boolean => (readBoolean? (Text.trim t)).map boolean
  | .dateTime =>
    (Instant.read? (Text.trim t) <|> (Date.read? (Text.trim t)).map Instant.midnight).map dateTime
  | .date =>
    (Date.read? (Text.trim t) <|> (Instant.read? (Text.trim t)).bind Instant.date?).map date

end ResourceQuery.Value
