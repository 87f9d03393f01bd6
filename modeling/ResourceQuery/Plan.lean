/-
  Resource queries — plans.

  * `Plan`: a query made ready for an entity: its filter, and its sort keys, columns and page
    with their paths resolved.
  * `Plan.build`: the plan of a query.  Without columns every field is one; without a page the
    settings may name a page size.
  * `Plan.execute`: the items that pass the filter, sorted, and of those the page.  Items that
    tie keep their order; nulls come first in ascending order.
  * `Plan.row`: the columns of an item, in the order of their names.
-/
import ResourceQuery.Filter.Builder
import ResourceQuery.Settings.Basic
import ResourceQuery.Value.Cell

namespace ResourceQuery

/-- A query made ready for the entity `e`. -/
structure Plan (S : Schema) (e : S.Entity) where
  filter : Filter S e
  sort : List (Path S e × Direction)
  projection : List (Path S e)
  page : Option Page

namespace Plan

variable {S : Schema} {e : S.Entity}

/-! ## Building -/

/-- The path of a target that is used as a sort key or a column; it has to end at a field. -/
def resolveField (usage : Usage) (t : Target) : Except Error (Path S e) := do
  let path ← S.resolve e t
  match path.dataType? with
  | some _ => return path
  | none => .error (.unsupported path.text usage none)

/-- The path of a sort key with its direction. -/
def resolveKey (k : SortKey) : Except Error (Path S e × Direction) := do
  return (← resolveField .sort k.target, k.direction)

/-- The path of a field by its name. -/
def resolveName (p : Property S.Item e) : Except Error (Path S e) := do
  S.resolve e (← (Target.read p.name).mapError .parse)

/-- The columns of a query; every field of the entity when it names none. -/
def resolveColumns (q : Query) : Except Error (List (Path S e)) :=
  if q.hasProjection then q.projection.mapM (resolveField .select)
  else (S.fields e).mapM resolveName

/-- The plan of a query. -/
def build (settings : Settings) (q : Query) : Except Error (Plan S e) := do
  let filter ← Filter.build settings.wildcard q.criteria
  let sort ← q.sort.mapM resolveKey
  let projection ← resolveColumns q
  return { filter, sort, projection,
           page := q.page <|> settings.defaultLimit.map fun limit => ⟨limit, 0⟩ }

/-- The paths of the columns. -/
def columns (p : Plan S e) : List Text := p.projection.map Path.text

/-! ## Execution -/

/-- The order of two values of a sort key: nothing comes first, and what cannot be compared
    ties. -/
def cmpRead : Option Value → Option Value → Ordering
  | none, none => .eq
  | none, some _ => .lt
  | some _, none => .gt
  | some a, some b => (a.cmp? b).getD .eq

/-- An order in the given direction. -/
def directed : Direction → Ordering → Ordering
  | .ascending, o => o
  | .descending, o => o.swap

/-- The order of two items by sort keys, the first key first. -/
def cmpBy : List (Path S e × Direction) → S.Item e → S.Item e → Ordering
  | [], _, _ => .eq
  | (path, direction) :: keys, x, y =>
    (directed direction (cmpRead (path.read x) (path.read y))).then (cmpBy keys x y)

/-- The part of a list that a page shows. -/
def slice {α : Type} : Option Page → List α → List α
  | none, xs => xs
  | some page, xs => (xs.drop page.offset.toNat).take page.limit.toNat

/-- The items that pass the filter, in order. -/
def select (p : Plan S e) (items : List (S.Item e)) : List (S.Item e) :=
  (p.filter.apply items).mergeSort fun x y => (cmpBy p.sort x y).isLE

/-- The page of the items that pass the filter, in order. -/
def execute (p : Plan S e) (items : List (S.Item e)) : List (S.Item e) :=
  slice p.page (p.select items)

/-! ## Rows -/

/-- A row: cells by the paths of their columns, in the order of the paths. -/
abbrev Row := List (Text × Cell)

/-- The row with one more column; a column of the same path is replaced. -/
def Row.insert (path : Text) (cell : Cell) : Row → Row
  | [] => [(path, cell)]
  | (k, c) :: row =>
    match Value.cmpText path k with
    | .lt => (path, cell) :: (k, c) :: row
    | .eq => (path, cell) :: row
    | .gt => (k, c) :: Row.insert path cell row

/-- The cell of a column. -/
def cell (path : Path S e) (x : S.Item e) : Cell := ((path.read x).map Value.toCell).getD .null

/-- The columns of an item. -/
def row (p : Plan S e) (x : S.Item e) : Row :=
  p.projection.foldl (fun row path => Row.insert path.text (cell path x) row) []

/-- The rows of the result. -/
def rows (p : Plan S e) (items : List (S.Item e)) : List Row := (p.execute items).map p.row

end Plan

end ResourceQuery
