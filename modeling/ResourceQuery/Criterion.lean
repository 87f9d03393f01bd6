/-
  Resource queries — criteria.

  * `Literal`: a value in a criterion, with the text it was written as when that text is not
    the literal of the value (`007`, `TRUE`, `1e3`).  A property of strings sees that text.
  * `Criterion`: a target, an operator and as many literals as the operator takes.
  * `Criterion.make`: the criterion of these parts, when the number of literals is allowed.
  * `Criterion.same`: equality, with values compared by what they denote.
-/
import ResourceQuery.Target
import ResourceQuery.Value.Literal

namespace ResourceQuery

/-- A value in a criterion and, when it differs from the literal of the value, the text the
    value was written as. -/
structure Literal where
  value : Value
  bare : Option Text
deriving DecidableEq

namespace Literal

/-- A value that was not written at all. -/
def ofValue (v : Value) : Literal := ⟨v, none⟩

/-- A string between quotes. -/
def ofQuoted (t : Text) : Literal := ⟨.string t, none⟩

/-- A word without quotes. -/
def ofWord (w : Text) : Literal :=
  let v := Value.infer w
  ⟨v, if w = v.literal then none else some w⟩

/-- Whether two literals have values that denote the same and the same text beside them. -/
def same (a b : Literal) : Bool := a.value.same b.value && a.bare == b.bare

end Literal

/-- A comparison of a property with literals, as many as the operator takes. -/
structure Criterion where
  target : Target
  operator : Operator
  literals : List Literal
  accepted : operator.arity.accepts literals.length
deriving DecidableEq

namespace Criterion

/-- The criterion of a target, an operator and literals. -/
def make (target : Target) (operator : Operator) (literals : List Literal) :
    Except ParseError Criterion :=
  if h : operator.arity.accepts literals.length then .ok ⟨target, operator, literals, h⟩
  else .error { cause := .wrongValueCount operator target.text literals.length }

/-- The criterion of a target, an operator and values that were not written. -/
def ofValues (target : Target) (operator : Operator) (values : List Value) :
    Except ParseError Criterion :=
  make target operator (values.map .ofValue)

/-- The values compared with. -/
def values (c : Criterion) : List Value := c.literals.map Literal.value

/-- The type of the first value; none for an operator without values. -/
def dataType? (c : Criterion) : Option DataType := c.literals.head?.map (·.value.dataType)

/-- The text that the value at a position was written as, where that is not its literal. -/
def bareText? (c : Criterion) (position : Nat) : Option Text :=
  c.literals[position]?.bind Literal.bare

/-- Whether two lists agree member by member. -/
def sameAll {α : Type} (same : α → α → Bool) : List α → List α → Bool
  | [], [] => true
  | a :: as, b :: bs => same a b && sameAll same as bs
  | _, _ => false

/-- Whether two criteria ask for the same. -/
def same (a b : Criterion) : Bool :=
  a.operator == b.operator && a.target == b.target && sameAll Literal.same a.literals b.literals

end Criterion

end ResourceQuery
