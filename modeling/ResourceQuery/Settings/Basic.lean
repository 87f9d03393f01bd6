/-
  Resource queries — settings.

  * `Settings`: limits on the text of a query, the wildcard of like patterns and the page
    size where a query names none.
-/
import ResourceQuery.Text.Basic

namespace ResourceQuery

/-- Limits and choices for reading queries and running them. -/
structure Settings where
  /-- The most clauses in one text. -/
  maxClauses : Nat := 64
  /-- The most values in one criterion. -/
  maxValues : Nat := 256
  /-- The most bytes in one text. -/
  maxLength : Nat := 4096
  /-- The wildcard of like patterns is its first character; when empty there is none. -/
  likeWildcard : Text := ['*']
  /-- The page size for queries without one. -/
  defaultLimit : Option UInt64 := none
deriving DecidableEq

namespace Settings

/-- The settings where nothing else is said. -/
def standard : Settings := {}

/-- The wildcard of like patterns. -/
def wildcard (s : Settings) : Option Char := s.likeWildcard.head?

end Settings

end ResourceQuery
