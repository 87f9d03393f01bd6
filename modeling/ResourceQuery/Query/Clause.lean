/-
  Resource queries — clauses.

  * `Clause`: the tokens between two separators, and where they end.
  * `Clause.ofTokens`: the clauses of a query; empty ones are left out.
  * `Clause.text`: the text of a clause, for messages.
-/
import ResourceQuery.Text.Blank
import ResourceQuery.Token.Basic

namespace ResourceQuery

/-- The tokens between two separators.  The clause ends at byte `stop`: at a separator, or at
    the end of the query. -/
structure Clause where
  tokens : List Located
  stop : Nat
  separated : Bool
deriving DecidableEq

namespace Clause

/-- The token sequence cut at its separators, for a query of `size` bytes. -/
def cut (size : Nat) : List Located → List Clause
  | [] => [⟨[], size, false⟩]
  | t :: ts =>
    if t.token = .separator then ⟨[], t.start, true⟩ :: cut size ts
    else match cut size ts with
      | [] => [⟨[t], size, false⟩]
      | c :: cs => { c with tokens := t :: c.tokens } :: cs

/-- The clauses of a query of `size` bytes. -/
def ofTokens (size : Nat) (ts : List Located) : List Clause :=
  (cut size ts).filter fun c => !c.tokens.isEmpty

/-- The position of the first of the remaining tokens, or of the end of the clause. -/
def position (c : Clause) : List Located → Nat
  | [] => c.stop
  | t :: _ => t.start

/-- The text of the clause without the blanks at its ends. -/
def text (c : Clause) (query : Text) : Text :=
  Text.trim (Text.slice query (c.position c.tokens) c.stop)

end Clause

end ResourceQuery
