/-
  Resource queries — tokens.

  * `Token`: the smallest parts of a query that mean something.
  * `Token.describe`: how a message names a token.
  * `Located`: a token and the bytes of the query it stands at.
-/
import ResourceQuery.Operator

namespace ResourceQuery

/-- A part of a query. -/
inductive Token where
  /-- A word with an operator after it. -/
  | field (path : Text)
  | operator (op : Operator)
  /-- A name with an opening parenthesis, the name in lower case. -/
  | directive (name : Text)
  /-- A literal between quotes, without its escapes. -/
  | quoted (text : Text)
  /-- Any other word, as it was written. -/
  | bare (text : Text)
  | comma
  | close
  | separator
deriving DecidableEq

/-- The token in a message. -/
def Token.describe : Token → String
  | field path => s!"field '{path.toString}'"
  | operator op => s!"operator '{op.symbol}'"
  | directive name => s!"'{name.toString}('"
  | quoted text => "quoted literal \"" ++ text.toString ++ "\""
  | bare text => s!"literal '{text.toString}'"
  | comma => "','"
  | close => "')'"
  | separator => "separator"

/-- A token with the positions, in bytes, at which it starts and after which it ends. -/
structure Located where
  token : Token
  start : Nat
  stop : Nat
deriving DecidableEq

end ResourceQuery
