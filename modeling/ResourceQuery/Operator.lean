/-
  Resource queries — operators.

  * `Operator`: the comparisons a criterion can make, each written by its mnemonic between
    equals signs (`=eq=`).
  * `Operator.ofMnemonic?`: the operator of a mnemonic in either case.  It undoes
    `Operator.mnemonic` (`ofMnemonic?_mnemonic`).
  * `Arity`: how many values an operator takes.
-/
import ResourceQuery.Text.Basic

namespace ResourceQuery

/-- How many values an operator takes. -/
inductive Arity where
  /-- No value. -/
  | zero
  /-- Exactly one value. -/
  | one
  /-- One or more values. -/
  | several
  /-- Exactly two values. -/
  | two
deriving DecidableEq, Repr

namespace Arity

/-- Whether the number of values is allowed. -/
def accepts : Arity → Nat → Bool
  | zero, n => n == 0
  | one, n => n == 1
  | several, n => 1 ≤ n
  | two, n => n == 2

/-- The allowed number of values in words. -/
def describe : Arity → String
  | zero => "no value"
  | one => "exactly one value"
  | several => "one or more values"
  | two => "exactly two values"

end Arity

/-- A comparison of a property with literals. -/
inductive Operator where
  | equal
  | notEqual
  | greaterThan
  | greaterThanOrEqual
  | lessThan
  | lessThanOrEqual
  | like
  | oneOf
  | noneOf
  | isNull
  | isNotNull
  | between
deriving DecidableEq, Repr

namespace Operator

/-- Every operator. -/
def all : List Operator :=
  [equal, notEqual, greaterThan, greaterThanOrEqual, lessThan, lessThanOrEqual, like, oneOf,
   noneOf, isNull, isNotNull, between]

/-- The word by which a query writes the operator. -/
def mnemonic : Operator → String
  | equal => "eq"
  | notEqual => "ne"
  | greaterThan => "gt"
  | greaterThanOrEqual => "ge"
  | lessThan => "lt"
  | lessThanOrEqual => "le"
  | like => "like"
  | oneOf => "in"
  | noneOf => "out"
  | isNull => "null"
  | isNotNull => "notnull"
  | between => "bt"

/-- The operator as a query writes it. -/
def symbol (op : Operator) : String := "=" ++ op.mnemonic ++ "="

/-- The operator of a mnemonic, in either case. -/
def ofMnemonic? (t : Text) : Option Operator :=
  all.find? fun op => op.mnemonic.toList == Text.lower t

/-- How many values the operator takes. -/
def arity : Operator → Arity
  | isNull | isNotNull => .zero
  | oneOf | noneOf => .several
  | between => .two
  | _ => .one

/-- Whether the operator needs an order on the compared type. -/
def isOrdering : Operator → Bool
  | greaterThan | greaterThanOrEqual | lessThan | lessThanOrEqual | between => true
  | _ => false

theorem mem_all (op : Operator) : op ∈ all := by cases op <;> decide

theorem ofMnemonic?_mnemonic (op : Operator) :
    ofMnemonic? op.mnemonic.toList = some op := by
  cases op <;> decide

end Operator

end ResourceQuery
