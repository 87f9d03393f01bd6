/-
  Resource queries — building filters.

  * `Filter.build`: the filter of criteria on an entity, or the first error among them.
  * `Filter.compile`: one criterion as a comparison and a test.

  A criterion resolves its target, is supported by the type found there, and converts its
  literals to that type.  A string property takes a word exactly as it was written.  The two
  bounds of a range may come in either order.

  It is assumed that the engine of regular expressions accepts the pattern of every like
  criterion: the error for a pattern beyond its limit on size is left out.
-/
import ResourceQuery.Filter.Basic
import ResourceQuery.Filter.Like
import ResourceQuery.Query.Basic
import ResourceQuery.Schema.Path
import ResourceQuery.Value.Coerce

namespace ResourceQuery.Filter

variable {S : Schema} {e : S.Entity}

/-! ## Tests -/

/-- Whether a value stands in the relation of the operator to the values.  Operators that no
    value decides, and too few values, give false. -/
def satisfies (actual : Value) : Operator → List Value → Bool
  | .equal, v :: _ => actual.same v
  | .notEqual, v :: _ => !actual.same v
  | .greaterThan, v :: _ => actual.isGreater v
  | .greaterThanOrEqual, v :: _ => actual.isAtLeast v
  | .lessThan, v :: _ => actual.isLess v
  | .lessThanOrEqual, v :: _ => actual.isAtMost v
  | .oneOf, vs => vs.any actual.same
  | .noneOf, vs => !vs.any actual.same
  | .between, low :: high :: _ => actual.isAtLeast low && actual.isAtMost high
  | _, _ => false

/-- The test of a comparison; a null passes none. -/
def comparisonTest (path : Path S e) (op : Operator) (values : List Value) (x : S.Item e) :
    Bool :=
  (path.read x).any fun actual => satisfies actual op values

/-- The test of a like pattern that the engine of regular expressions accepts; a null passes
    none. -/
def likeTestAt (wildcard : Option Char) (path : Path S e) (values : List Value)
    (x : S.Item e) : Bool :=
  (path.read x).any fun actual =>
    actual.text?.any (likeTest wildcard ((values.head?.bind Value.text?).getD []))

/-- The test for null, or against it.  Where a property cannot be null, what it holds when it
    has not been set counts as null. -/
def nullTest (path : Path S e) (unset : Option Value) (wanted : Bool) (x : S.Item e) : Bool :=
  (path.isNull x || unset.any fun d => (path.read x).any (·.same d)) == wanted

/-! ## Compiling -/

/-- The error of an operator that a property does not support. -/
def unsupported (path : Path S e) (op : Operator) : Error :=
  .unsupported path.text (.criterion op) path.dataType?

/-- A literal as a value of the type of the property. -/
def convert (path : Path S e) (t : DataType) (l : Literal) : Except Error Value :=
  match l.bare, t with
  | some w, .string => .ok (.string w)
  | bare, t =>
    match l.value.coerce? t with
    | some v => .ok v
    | none => .error (.coercion path.text t (bare.getD l.value.literal))

/-- The two bounds of a range, the lower one first. -/
def sortBounds : List Value → List Value
  | [a, b] => if a.isGreater b then [b, a] else [a, b]
  | vs => vs

/-- The test of a criterion on a field. -/
def fieldTest (wildcard : Option Char) (path : Path S e) (t : DataType) (op : Operator)
    (values : List Value) : S.Item e → Bool :=
  match op with
  | .isNull => nullTest path (if path.nullable then none else some t.default) true
  | .isNotNull => nullTest path (if path.nullable then none else some t.default) false
  | .like => likeTestAt wildcard path values
  | op => comparisonTest path op values

/-- A criterion on a field of type `t`.  A like pattern is assumed to be accepted by the engine of
    regular expressions, and so never refused here. -/
def compileField (wildcard : Option Char) (path : Path S e) (t : DataType) (c : Criterion) :
    Except Error (Comparison × (S.Item e → Bool)) :=
  if c.operator.isOrdering && !t.isOrdered then .error (unsupported path c.operator)
  else if c.operator = .like ∧ t ≠ .string then .error (unsupported path c.operator)
  else do
    let converted ← c.literals.mapM (convert path t)
    let values := if c.operator = .between then sortBounds converted else converted
    return (⟨c.target, some t, path.nullable, c.operator, values⟩,
      fieldTest wildcard path t c.operator values)

/-- A criterion on a reference, which can only be null or not. -/
def compileReference (path : Path S e) (c : Criterion) :
    Except Error (Comparison × (S.Item e → Bool)) :=
  if c.operator.arity = .zero then
    .ok (⟨c.target, none, true, c.operator, []⟩, nullTest path none (c.operator = .isNull))
  else .error (unsupported path c.operator)

/-- A criterion on an entity as a comparison and a test. -/
def compile (wildcard : Option Char) (c : Criterion) :
    Except Error (Comparison × (S.Item e → Bool)) := do
  let path ← S.resolve e c.target
  match path.dataType? with
  | none => compileReference path c
  | some t => compileField wildcard path t c

/-- The filter with one more criterion. -/
def addCriterion (wildcard : Option Char) (f : Filter S e) (c : Criterion) :
    Except Error (Filter S e) := do
  let (comparison, test) ← compile wildcard c
  return ⟨f.expression.and (.compare comparison), f.tests ++ [test]⟩

/-- The filter of criteria that have to hold together. -/
def build (wildcard : Option Char) (criteria : List Criterion) : Except Error (Filter S e) :=
  criteria.foldlM (addCriterion wildcard) all

end ResourceQuery.Filter
