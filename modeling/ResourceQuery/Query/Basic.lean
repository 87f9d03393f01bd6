/-
  Resource queries — queries.

  * `Query`: the columns, the criteria, the sort keys and the page that a text asks for.  The
    criteria hold together, in the order in which they were written.
  * `Query.same`: equality, with values compared by what they denote.
-/
import ResourceQuery.Criterion

namespace ResourceQuery

/-- The direction of a sort key. -/
inductive Direction where
  | ascending
  | descending
deriving DecidableEq

/-- A property to sort by. -/
structure SortKey where
  target : Target
  direction : Direction
deriving DecidableEq

/-- How many items to give, and how many to leave out before them. -/
structure Page where
  limit : UInt64
  offset : UInt64
deriving DecidableEq

/-- What a text asks for; no columns, no sort keys and no page where it names none. -/
structure Query where
  projection : List Target := []
  criteria : List Criterion := []
  sort : List SortKey := []
  page : Option Page := none
deriving DecidableEq

namespace Query

/-- The query for everything. -/
def empty : Query := {}

/-- The query with one more criterion. -/
def addCriterion (q : Query) (c : Criterion) : Query := { q with criteria := q.criteria ++ [c] }

/-- Whether the query names columns. -/
def hasProjection (q : Query) : Bool := !q.projection.isEmpty

/-- Whether the query has criteria. -/
def hasCriteria (q : Query) : Bool := !q.criteria.isEmpty

/-- Whether the query names sort keys. -/
def hasSort (q : Query) : Bool := !q.sort.isEmpty

/-- Whether the query asks for everything. -/
def isEmpty (q : Query) : Bool :=
  !q.hasProjection && !q.hasCriteria && !q.hasSort && q.page.isNone

/-- Whether two queries ask for the same. -/
def same (a b : Query) : Bool :=
  a.projection == b.projection && Criterion.sameAll Criterion.same a.criteria b.criteria &&
    a.sort == b.sort && a.page == b.page

end Query

end ResourceQuery
