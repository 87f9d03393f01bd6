/-
  Resource queries — writing queries.

  * `Query.render`: the canonical text of a query: its columns, its criteria, its sort keys
    with their signs and its page, with `;` between them.
  * `Value.render`: a value as a query writes it.  A string stands between quotes when it is
    empty, when a character of it would end or split a word, and when the word without quotes
    would denote something else.
-/
import ResourceQuery.Query.Basic
import ResourceQuery.Text.Quoted

namespace ResourceQuery

/-- The characters that end or split a word, and the one that escapes. -/
def isReserved (c : Char) : Bool :=
  [';', '&', ',', '(', ')', '=', '"', '\'', '\\', ' '].contains c

/-- Whether a string has to stand between quotes. -/
def needsQuotes (t : Text) : Bool :=
  t.isEmpty || t.any (fun c => Text.isBlank c || isReserved c) ||
    !(Value.infer t).same (.string t)

/-- The value as a query writes it. -/
def Value.render : Value → Text
  | .string t => if needsQuotes t then Quoted.encode t else t
  | v => v.literal

/-- The literal as a query writes it: as it was written, where that is known. -/
def Literal.render (l : Literal) : Text := l.bare.getD l.value.render

/-- The criterion as a query writes it. -/
def Criterion.render (c : Criterion) : Text :=
  c.target.text ++ c.operator.symbol.toList ++
    Text.joinWith [','] (c.literals.map Literal.render)

/-- The sort key with the sign of its direction. -/
def SortKey.render (k : SortKey) : Text :=
  (match k.direction with
    | .ascending => '+'
    | .descending => '-') :: k.target.text

namespace Query

/-- A directive with its arguments. -/
def renderDirective (name : String) (arguments : List Text) : Text :=
  name.toList ++ '(' :: Text.joinWith [','] arguments ++ [')']

/-- The page as a directive; an offset of zero is left out. -/
def renderPage (p : Page) : Text :=
  let limit := Numeral.digits p.limit.toNat
  if p.offset = 0 then renderDirective "limit" [limit]
  else renderDirective "limit" [limit, Numeral.digits p.offset.toNat]

/-- The clauses of the canonical text. -/
def renderClauses (q : Query) : List Text :=
  (if q.hasProjection then [renderDirective "select" (q.projection.map Target.text)] else []) ++
    q.criteria.map Criterion.render ++
    (if q.hasSort then [renderDirective "sort" (q.sort.map SortKey.render)] else []) ++
    q.page.toList.map renderPage

/-- The canonical text of a query. -/
def render (q : Query) : Text := Text.joinWith [';'] q.renderClauses

end Query

end ResourceQuery
