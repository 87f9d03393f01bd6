/-
  Resource queries — errors.

  * `ParseError.Cause`: what can be wrong with the text of a query.
  * `ParseError`: a cause with the place it was found at, as far as it is known.
  * `Error`: what can go wrong with a query: its text, a path that the queried type does not
    have, a literal that does not fit its property, an operation that a property does not
    support; or the settings.
  * `Error.message`, `Error.status`, `Error.isClient`: the wording, the status code for a
    client of a service, and whether the fault lies with that client.
-/
import ResourceQuery.DataType
import ResourceQuery.Token.Basic

namespace ResourceQuery

/-! ## Errors in the text of a query -/

/-- What is wrong with the text of a query. -/
inductive ParseError.Cause where
  -- tokens
  | unterminatedQuote
  | unknownOperator (mnemonic : Text)
  | noFieldBefore (mnemonic : Text)
  | unexpectedCharacter (c : Char)
  -- field names
  | emptyFieldName
  | emptySegment (path : Text)
  | invalidCharacter (c : Char) (path : Text)
  -- limits
  | tooLong (size limit : Nat)
  | tooManyClauses (limit : Nat)
  | tooManyValues (limit : Nat) (target : Text)
  -- clauses
  | unexpectedEnd
  | quotedFieldName
  | notAClause (found : Token)
  | notASeparator (found : Token)
  -- criteria
  | missingOperator (target : Text)
  | takesNoValue (op : Operator)
  | notAValue (found : Token)
  | missingValue
  | wrongValueCount (op : Operator) (target : Text) (found : Nat)
  -- directives
  | unknownDirective (name : Text)
  | duplicateDirective (name : Text)
  | emptyDirective (name : Text)
  | unclosedDirective (name : Text)
  | notAnArgument (name : Text) (found : Token)
  | notAComma (name : Text) (found : Token)
  | invalidCount (word : Text)
  | wrongLimitArguments
deriving DecidableEq

/-- The wording of a cause. -/
def ParseError.Cause.message : ParseError.Cause → String
  | unterminatedQuote => "Unterminated quoted literal"
  | unknownOperator mnemonic => s!"Unknown operator '={mnemonic.toString}='"
  | noFieldBefore mnemonic => s!"Empty field name before '={mnemonic.toString}='"
  | unexpectedCharacter c => s!"Unexpected character '{c}'"
  | emptyFieldName => "Empty field name"
  | emptySegment path => s!"Empty segment in field name '{path.toString}'"
  | invalidCharacter c path => s!"Invalid character '{c}' in field name '{path.toString}'"
  | tooLong size limit => s!"Query is {size} bytes long, the limit is {limit}"
  | tooManyClauses limit => s!"More than {limit} clauses"
  | tooManyValues limit target => s!"More than {limit} values for '{target.toString}'"
  | unexpectedEnd => "Unexpected end of query"
  | quotedFieldName => "Field names cannot be quoted"
  | notAClause found => s!"Expected a field name or a directive, found {found.describe}"
  | notASeparator found => s!"Expected ';' or '&' after clause, found {found.describe}"
  | missingOperator target => s!"Expected an operator after '{target.toString}'"
  | takesNoValue op => s!"Operator '{op.symbol}' takes no value"
  | notAValue found => s!"Expected a value, found {found.describe}"
  | missingValue => "Expected a value, found end of query"
  | wrongValueCount op target found =>
    s!"Operator '{op.symbol}' on '{target.toString}' expects {op.arity.describe}, found {found}"
  | unknownDirective name => s!"Unknown directive '{name.toString}(...)'"
  | duplicateDirective name => s!"Duplicate {name.toString}(...) clause"
  | emptyDirective name => s!"Empty {name.toString}(...) clause"
  | unclosedDirective name => s!"Unclosed {name.toString}(...) clause"
  | notAnArgument name found =>
    s!"Expected an argument to {name.toString}(...), found {found.describe}"
  | notAComma name found =>
    s!"Expected ',' or ')' in {name.toString}(...), found {found.describe}"
  | invalidCount word => s!"'{word.toString}' is not a valid count in limit(...)"
  | wrongLimitArguments => "limit(...) takes a count and an optional offset"

/-- An error in the text of a query: its cause, the index and the text of the clause or the
    text of the token it lies in, and its position in bytes and in lines and columns. -/
structure ParseError where
  cause : ParseError.Cause
  clause : Option Nat := none
  text : Option Text := none
  position : Option Nat := none
  line : Option Nat := none
  column : Option Nat := none
deriving DecidableEq

namespace ParseError

/-- The error at a position, unless its position is known. -/
def atPosition (e : ParseError) (position : Nat) : ParseError :=
  { e with position := e.position <|> some position }

/-- The error in a clause, unless its clause or its text is known. -/
def inClause (e : ParseError) (index : Nat) (text : Text) : ParseError :=
  { e with clause := e.clause <|> some index, text := e.text <|> some text }

/-- A cause at a position. -/
def located (cause : Cause) (position : Nat) : ParseError := { cause, position := some position }

end ParseError

/-! ## Errors of a query -/

/-- What a path is used for. -/
inductive Usage where
  | criterion (op : Operator)
  | sort
  | select
deriving DecidableEq

/-- The usage in a message. -/
def Usage.describe : Usage → String
  | criterion op => op.symbol
  | sort => "sort"
  | select => "select"

/-- What can go wrong with a query. -/
inductive Error where
  /-- The settings cannot be read. -/
  | settings
  | parse (error : ParseError)
  | unknownProperty (path : Text)
  | coercion (field : Text) (expected : DataType) (literal : Text)
  /-- The type of the property is absent for a reference to another entity. -/
  | unsupported (field : Text) (usage : Usage) (dataType : Option DataType)
deriving DecidableEq

/-- The name of a property's type in a message. -/
def typeName : Option DataType → String
  | some t => t.name
  | none => "reference"

namespace Error

/-- The wording of an error. -/
def message : Error → String
  | settings => "Config error"
  | parse e => s!"Parse error: {e.cause.message}"
  | unknownProperty path => s!"Unknown property: {path.toString}"
  | coercion field expected literal =>
    s!"Cannot convert '{literal.toString}' to {expected.name} for field {field.toString}"
  | unsupported field usage type =>
    s!"Operator {usage.describe} is not supported for field {field.toString} of type " ++
      typeName type

/-- The status code for a client of a service. -/
def status : Error → Nat
  | parse _ => 400
  | unknownProperty _ | coercion .. | unsupported .. => 422
  | settings => 500

/-- Whether the fault lies with the client. -/
def isClient : Error → Bool
  | settings => false
  | _ => true

end Error

end ResourceQuery
