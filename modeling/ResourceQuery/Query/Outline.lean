/-
  Resource queries — outlines.

  * `Outline`: a nested description, one part to a line.
  * `Outline.render`: the description as text, four blanks deeper at each level.
  * `Query.outline`: everything a query says.
-/
import ResourceQuery.Decimal.Printer
import ResourceQuery.Query.Basic
import ResourceQuery.Text.Escaped

namespace ResourceQuery

/-- A nested description: words, or labelled members between an opening and a closing. -/
inductive Outline where
  | leaf (text : Text)
  | block (opening closing : Text) (members : List (Text × Outline))

namespace Outline

mutual

/-- The description as text, its lines indented by `depth` blanks. -/
def renderAt (depth : Nat) : Outline → Text
  | leaf t => t
  | block opening closing [] => opening ++ closing
  | block opening closing (m :: ms) =>
    opening ++ '\n' :: renderMembers (depth + 4) (m :: ms) ++ List.replicate depth ' ' ++ closing

/-- The members of a block, each on lines of its own. -/
def renderMembers (depth : Nat) : List (Text × Outline) → Text
  | [] => []
  | (label, o) :: ms =>
    List.replicate depth ' ' ++ label ++ renderAt depth o ++ ",\n".toList ++
      renderMembers depth ms

end

/-- The description as text. -/
def render (o : Outline) : Text := renderAt 0 o

/-- A word. -/
def word (s : String) : Outline := leaf s.toList

/-- Members with names. -/
def record (name : String) (members : List (String × Outline)) : Outline :=
  block (name ++ " \x7b").toList "\x7d".toList
    (members.map fun (label, o) => ((label ++ ": ").toList, o))

/-- A single member with the name of what it is. -/
def tagged (name : String) (o : Outline) : Outline :=
  block (name ++ "(").toList ")".toList [([], o)]

/-- Members in order. -/
def list (os : List Outline) : Outline := block "[".toList "]".toList (os.map fun o => ([], o))

/-- A member that may be absent. -/
def option : Option Outline → Outline
  | some o => tagged "Some" o
  | none => word "None"

end Outline

/-! ## Parts of queries -/

/-- A target. -/
def Target.outline (t : Target) : Outline :=
  .record "Target" [("path", .leaf (Text.escaped t.text))]

/-- An operator. -/
def Operator.outline (op : Operator) : Outline :=
  .word <| match op with
    | equal => "Equal"
    | notEqual => "NotEqual"
    | greaterThan => "GreaterThan"
    | greaterThanOrEqual => "GreaterThanOrEqual"
    | lessThan => "LessThan"
    | lessThanOrEqual => "LessThanOrEqual"
    | like => "Like"
    | oneOf => "In"
    | noneOf => "Out"
    | isNull => "IsNull"
    | isNotNull => "IsNotNull"
    | between => "Between"

/-- The word for a data type. -/
def DataType.title : DataType → String
  | string => "String"
  | integer => "Integer"
  | float => "Float"
  | decimal => "Decimal"
  | boolean => "Boolean"
  | dateTime => "DateTime"
  | date => "Date"

/-- The content of a value; a decimal is shown as it is stored. -/
def Value.outlineText : Value → Text
  | string t => Text.escaped t
  | decimal d => "BigDecimal(\"".toList ++ d.exactText ++ "\")".toList
  | v => v.literal

/-- A value. -/
def Value.outline (v : Value) : Outline := .tagged v.dataType.title (.leaf v.outlineText)

/-- A criterion. -/
def Criterion.outline (c : Criterion) : Outline :=
  .record "Predicate"
    [("operator", c.operator.outline), ("target", c.target.outline),
     ("data_type", .option (c.dataType?.map fun t => .word t.title)),
     ("values", .list (c.values.map Value.outline)),
     ("bare", .list (c.literals.map fun l => .option (l.bare.map fun t => .leaf (Text.escaped t))))]

/-- A direction. -/
def Direction.outline : Direction → Outline
  | ascending => .word "Ascending"
  | descending => .word "Descending"

/-- A sort key. -/
def SortKey.outline (k : SortKey) : Outline :=
  .record "SortKey" [("target", k.target.outline), ("direction", k.direction.outline)]

/-- A page. -/
def Page.outline (p : Page) : Outline :=
  .record "Page" [("limit", .leaf (Numeral.digits p.limit.toNat)),
    ("offset", .leaf (Numeral.digits p.offset.toNat))]

/-- A query. -/
def Query.outline (q : Query) : Outline :=
  .record "CriteriaTree"
    [("projection", .list (q.projection.map Target.outline)),
     ("criteria", .list (q.criteria.map Criterion.outline)),
     ("sort", .list (q.sort.map SortKey.outline)),
     ("page", .option (q.page.map Page.outline))]

end ResourceQuery
