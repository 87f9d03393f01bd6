/-
  Resource queries — data of settings.

  * `Datum`: what a settings file or an environment variable says about one setting: a number,
    a truth value or a text.  A list or a table says nothing that a setting can use, so what is
    in it is not kept.
-/
import ResourceQuery.Text.Basic

namespace ResourceQuery

/-- What is said about one setting. -/
inductive Datum where
  | integer (number : Int64)
  | float (number : Float)
  | boolean (truth : Bool)
  | text (text : Text)
  /-- A list or a table. -/
  | compound

end ResourceQuery
