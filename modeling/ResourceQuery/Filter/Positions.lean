/-
  Resource queries — building filters by positions.

  Building as in `Filter.Builder`, but the values of a criterion are taken by their positions, and
  a position without a value ends what is going on.

  * `Filter.Halt`: what building or testing ends with, other than a result: an error of the
    criteria, or a position at which a criterion has no value.
  * `Filter.Probe`: a test that may end in this way.
  * `Filter.compileAt`, `Filter.buildAt`: criteria as comparisons and probes.
-/
import ResourceQuery.Filter.Builder

namespace ResourceQuery.Filter

/-- What building or testing ends with, when it gives no result. -/
inductive Halt where
  | error (error : Error)
  /-- There is no value at the position. -/
  | missing (position : Nat)

variable {S : Schema} {e : S.Entity}

/-- A test that may look for a value that is not there. -/
abbrev Probe (S : Schema) (e : S.Entity) := S.Item e → Except Halt Bool

/-- The test of a probe that finds all its values. -/
def Probe.ofTest (test : S.Item e → Bool) : Probe S e := fun x => .ok (test x)

/-- The value at a position. -/
def valueAt (values : List Value) (position : Nat) : Except Halt Value :=
  match values[position]? with
  | some v => .ok v
  | none => .error (.missing position)

/-! ## Probes -/

/-- Whether a value stands in the relation of the operator to the values.  The second bound of a
    range is looked for only when the value is at least the first. -/
def satisfiesAt (actual : Value) (values : List Value) : Operator → Except Halt Bool
  | .equal => return actual.same (← valueAt values 0)
  | .notEqual => return !actual.same (← valueAt values 0)
  | .greaterThan => return actual.isGreater (← valueAt values 0)
  | .greaterThanOrEqual => return actual.isAtLeast (← valueAt values 0)
  | .lessThan => return actual.isLess (← valueAt values 0)
  | .lessThanOrEqual => return actual.isAtMost (← valueAt values 0)
  | .oneOf => return values.any actual.same
  | .noneOf => return !values.any actual.same
  | .between => do
    if actual.isAtLeast (← valueAt values 0) then return actual.isAtMost (← valueAt values 1)
    else return false
  | .like | .isNull | .isNotNull => return false

/-- The probe of a comparison; a null passes none. -/
def comparisonProbe (path : Path S e) (op : Operator) (values : List Value) : Probe S e := fun x =>
  match path.read x with
  | some actual => satisfiesAt actual values op
  | none => return false

/-- The probe of a like pattern, which is the first value. -/
def likeProbe (wildcard : Option Char) (path : Path S e) (values : List Value) :
    Except Halt (Probe S e) := do
  let pattern ← valueAt values 0
  return .ofTest (likeTestAt wildcard path [pattern])

/-- The probe of a criterion on a field. -/
def fieldProbe (wildcard : Option Char) (path : Path S e) (t : DataType) (op : Operator)
    (values : List Value) : Except Halt (Probe S e) :=
  match op with
  | .isNull => return .ofTest (nullTest path (if path.nullable then none else some t.default) true)
  | .isNotNull =>
    return .ofTest (nullTest path (if path.nullable then none else some t.default) false)
  | .like => likeProbe wildcard path values
  | op => return comparisonProbe path op values

/-! ## Building -/

/-- The values with the first two in order. -/
def sortBoundsAt (values : List Value) : Except Halt (List Value) := do
  let low ← valueAt values 0
  let high ← valueAt values 1
  return if low.isGreater high then (values.set 0 high).set 1 low else values

/-- The values as an operator is compared with them: those of a range in order. -/
def arrangeAt (op : Operator) (values : List Value) : Except Halt (List Value) :=
  if op = .between then sortBoundsAt values else .ok values

/-- A criterion on a field of type `t`. -/
def compileFieldAt (wildcard : Option Char) (path : Path S e) (t : DataType) (c : Criterion) :
    Except Halt (Comparison × Probe S e) :=
  if c.operator.isOrdering && !t.isOrdered then .error (.error (unsupported path c.operator))
  else if c.operator = .like ∧ t ≠ .string then .error (.error (unsupported path c.operator))
  else do
    let converted ← (c.literals.mapM (convert path t)).mapError .error
    let values ← arrangeAt c.operator converted
    let probe ← fieldProbe wildcard path t c.operator values
    return (⟨c.target, some t, path.nullable, c.operator, values⟩, probe)

/-- A criterion on a reference; it has no values. -/
def compileReferenceAt (path : Path S e) (c : Criterion) : Except Halt (Comparison × Probe S e) :=
  ((compileReference path c).map fun (comparison, test) => (comparison, .ofTest test)).mapError
    .error

/-- A criterion on an entity as a comparison and a probe. -/
def compileAt (wildcard : Option Char) (c : Criterion) : Except Halt (Comparison × Probe S e) := do
  let path ← (S.resolve e c.target).mapError .error
  match path.dataType? with
  | none => compileReferenceAt path c
  | some t => compileFieldAt wildcard path t c

/-- The expression and the probes of criteria that have to hold together. -/
def buildAt (wildcard : Option Char) (criteria : List Criterion) :
    Except Halt (Expression × List (Probe S e)) :=
  criteria.foldlM (fun (expression, probes) c => do
    let (comparison, probe) ← compileAt wildcard c
    return (expression.and (.compare comparison), probes ++ [probe])) (.always, [])

end ResourceQuery.Filter
