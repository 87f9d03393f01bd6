/-
  Resource queries — expressions.

  * `Comparison`: a criterion with its path resolved and its values converted.
  * `Expression`: comparisons that hold together, in a form that another system can take over.
  * `Expression.and`: the conjunction of two expressions.  Conjunctions are kept flat: only
    comparisons are joined, and nothing is joined with what always holds.
  * `Expression.text`: the expression in words.
-/
import ResourceQuery.Target
import ResourceQuery.Value.Literal

namespace ResourceQuery

/-- A comparison of a property with values of its type.  The type is absent at the end of a
    reference. -/
structure Comparison where
  target : Target
  dataType : Option DataType
  nullable : Bool
  operator : Operator
  values : List Value
deriving DecidableEq

/-- A condition on the items of an entity. -/
inductive Expression where
  | always
  | compare (comparison : Comparison)
  | all (parts : List Expression)

namespace Expression

/-- The condition that both hold. -/
def and : Expression → Expression → Expression
  | always, b => b
  | a, always => a
  | all as, all bs => all (as ++ bs)
  | all as, b => all (as ++ [b])
  | a, all bs => all (a :: bs)
  | a, b => all [a, b]

mutual

/-- The comparisons of an expression, from left to right. -/
def comparisons : Expression → List Comparison
  | always => []
  | compare c => [c]
  | all parts => comparisonsOf parts

/-- The comparisons of several expressions. -/
def comparisonsOf : List Expression → List Comparison
  | [] => []
  | e :: es => e.comparisons ++ comparisonsOf es

end

end Expression

/-! ## Text -/

/-- A value in an expression: numbers and truth values as they are, all else between single
    quotes, with each single quote inside written twice. -/
def Value.quoted : Value → Text
  | v@(.integer _) | v@(.float _) | v@(.decimal _) | v@(.boolean _) => v.literal
  | v => '\'' :: v.literal.flatMap (fun c => if c = '\'' then ['\'', '\''] else [c]) ++ ['\'']

namespace Comparison

/-- The first value. -/
def firstText (c : Comparison) : Text := (c.values.head?.map Value.quoted).getD []

/-- The second value. -/
def secondText (c : Comparison) : Text := (c.values[1]?.map Value.quoted).getD []

/-- The values in parentheses. -/
def listText (c : Comparison) : Text :=
  '(' :: Text.joinWith ", ".toList (c.values.map Value.quoted) ++ [')']

/-- The comparison after its path. -/
def conditionText (c : Comparison) : Text :=
  match c.operator with
  | .equal => " = ".toList ++ c.firstText
  | .notEqual => " <> ".toList ++ c.firstText
  | .greaterThan => " > ".toList ++ c.firstText
  | .greaterThanOrEqual => " >= ".toList ++ c.firstText
  | .lessThan => " < ".toList ++ c.firstText
  | .lessThanOrEqual => " <= ".toList ++ c.firstText
  | .like => " LIKE ".toList ++ c.firstText
  | .oneOf => " IN ".toList ++ c.listText
  | .noneOf => " NOT IN ".toList ++ c.listText
  | .isNull => " IS NULL".toList
  | .isNotNull => " IS NOT NULL".toList
  | .between => " BETWEEN ".toList ++ c.firstText ++ " AND ".toList ++ c.secondText

/-- The comparison in words. -/
def text (c : Comparison) : Text := c.target.text ++ c.conditionText

end Comparison

namespace Expression

mutual

/-- The expression in words. -/
def text : Expression → Text
  | always => "TRUE".toList
  | compare c => c.text
  | all parts => Text.joinWith " AND ".toList (partTexts parts)

/-- The parts of a conjunction, each in parentheses. -/
def partTexts : List Expression → List Text
  | [] => []
  | e :: es => ('(' :: e.text ++ [')']) :: partTexts es

end

end Expression

end ResourceQuery
