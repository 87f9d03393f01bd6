/-
  Resource queries — filters.

  * `Filter`: a condition on the items of an entity, as tests that have to pass and as an
    expression that says the same.
  * `Filter.all`: the filter that every item passes.
  * `Filter.and`: the filter of what passes both.
  * `Filter.acceptsAny`: whether an item passes one of several filters.
-/
import ResourceQuery.Filter.Expression
import ResourceQuery.Schema.Basic

namespace ResourceQuery

/-- A condition on the items of the entity `e`. -/
structure Filter (S : Schema) (e : S.Entity) where
  expression : Expression
  tests : List (S.Item e → Bool)

namespace Filter

variable {S : Schema} {e : S.Entity}

/-- The filter that every item passes. -/
def all : Filter S e := ⟨.always, []⟩

/-- Whether an item passes the filter. -/
def accepts (f : Filter S e) (x : S.Item e) : Bool := f.tests.all (· x)

/-- Whether the filter tests nothing. -/
def isAll (f : Filter S e) : Bool := f.tests.isEmpty

/-- The filter of the items that pass both. -/
def and (f g : Filter S e) : Filter S e := ⟨f.expression.and g.expression, f.tests ++ g.tests⟩

/-- The items that pass the filter. -/
def apply (f : Filter S e) (items : List (S.Item e)) : List (S.Item e) := items.filter f.accepts

/-- Whether an item passes one of the filters; none passes none. -/
def acceptsAny (filters : List (Filter S e)) (x : S.Item e) : Bool := filters.any (·.accepts x)

theorem accepts_and (f g : Filter S e) (x : S.Item e) :
    (f.and g).accepts x = (f.accepts x && g.accepts x) := by
  simp [accepts, and, List.all_append]

end Filter

end ResourceQuery
