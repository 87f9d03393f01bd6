/-
  Resource queries — what expressions mean.

  * `Operator.Relates`: what an operator says about the value of a property and the values it
    is compared with.
  * `Comparison.HoldsAt`: a comparison for the property at the end of a path.  Where there is
    no value, only the operator for null holds.
  * `Comparison.Holds`, `Expression.Holds`: the same for an item of an entity.  The target of
    a comparison is resolved anew, so nothing but the expression itself counts.
  * `Filter.Built`: the filters that a builder can give.
-/
import ResourceQuery.Filter.Builder

namespace ResourceQuery

/-- What an operator says about an actual value and the values it is compared with.  No value
    decides the operators for null. -/
def Operator.Relates (wildcard : Option Char) (actual : Value) : Operator → List Value → Prop
  | .equal, [v] => actual.same v
  | .notEqual, [v] => ¬ actual.same v
  | .greaterThan, [v] => actual.cmp? v = some .gt
  | .greaterThanOrEqual, [v] => actual.cmp? v = some .gt ∨ actual.cmp? v = some .eq
  | .lessThan, [v] => actual.cmp? v = some .lt
  | .lessThanOrEqual, [v] => actual.cmp? v = some .lt ∨ actual.cmp? v = some .eq
  | .like, [v] => ∃ t pattern, actual = .string t ∧ v = .string pattern ∧ likeTest wildcard pattern t
  | .oneOf, vs => ∃ v ∈ vs, actual.same v
  | .noneOf, vs => ∀ v ∈ vs, ¬ actual.same v
  | .between, [low, high] =>
    (actual.cmp? low = some .gt ∨ actual.cmp? low = some .eq) ∧
      (actual.cmp? high = some .lt ∨ actual.cmp? high = some .eq)
  | _, _ => False

variable {S : Schema} {e : S.Entity}

namespace Comparison

/-- Whether the property at the end of a path counts as null: it is null, or it cannot be null
    and holds what it does when it has not been set. -/
def IsUnset (c : Comparison) (path : Path S e) (x : S.Item e) : Prop :=
  path.isNull x ∨
    c.nullable = false ∧ ∃ t actual, c.dataType = some t ∧ path.read x = some actual ∧
      actual.same t.default

/-- Whether a comparison holds for the property at the end of a path. -/
def HoldsAt (wildcard : Option Char) (c : Comparison) (path : Path S e) (x : S.Item e) : Prop :=
  match c.operator with
  | .isNull => c.IsUnset path x
  | .isNotNull => ¬ c.IsUnset path x
  | op => ∃ actual, path.read x = some actual ∧ op.Relates wildcard actual c.values

/-- Whether a comparison holds for an item. -/
def Holds (wildcard : Option Char) (c : Comparison) (x : S.Item e) : Prop :=
  ∃ path : Path S e, S.resolve e c.target = .ok path ∧ c.HoldsAt wildcard path x

end Comparison

namespace Expression

mutual

/-- Whether an expression holds for an item. -/
def Holds (wildcard : Option Char) (x : S.Item e) : Expression → Prop
  | always => True
  | compare c => c.Holds wildcard x
  | all parts => AllHold wildcard x parts

/-- Whether each of several expressions holds for an item. -/
def AllHold (wildcard : Option Char) (x : S.Item e) : List Expression → Prop
  | [] => True
  | part :: parts => part.Holds wildcard x ∧ AllHold wildcard x parts

end

end Expression

/-- The filters that a builder with a wildcard can give for an entity: the filter that every
    item passes, those of criteria, and conjunctions of these. -/
inductive Filter.Built (wildcard : Option Char) : Filter S e → Prop
  | all : Built wildcard .all
  | build {criteria : List Criterion} {f : Filter S e} :
      Filter.build wildcard criteria = .ok f → Built wildcard f
  | and {f g : Filter S e} : Built wildcard f → Built wildcard g → Built wildcard (f.and g)

end ResourceQuery
