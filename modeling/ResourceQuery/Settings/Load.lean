/-
  Resource queries — loading settings.

  * `Settings.ofSources`: the settings that a file and environment variables ask for.  A
    variable replaces an entry of the file, and what neither names stays standard.
  * `Settings.load`: the same from the file of a name, when there is one.
  * `Datum.toCount?`, `Datum.toText?`: a datum as a number and as a text.
-/
import ResourceQuery.Binary64.Shortest
import ResourceQuery.Error
import ResourceQuery.Settings.Basic
import ResourceQuery.Settings.Key
import ResourceQuery.Settings.Location
import ResourceQuery.Text.LowerCase

namespace ResourceQuery

namespace Datum

/-- The content of an environment variable: a truth value, an integer or a float where it
    reads as one. -/
def ofVariable (t : Text) : Datum :=
  if Text.toLowerCase t = "true".toList then .boolean true
  else if Text.toLowerCase t = "false".toList then .boolean false
  else match Numeral.readInt64? t, RealText.read? t with
    | some i, _ => .integer i
    | none, some r => .float r.toFloat
    | none, none => .text t

/-- The number that words such as `yes` and `off` stand for. -/
def switch? (t : Text) : Option Nat :=
  let word := Text.toLowerCase t
  if ["true", "on", "yes"].any (·.toList == word) then some 1
  else if ["false", "off", "no"].any (·.toList == word) then some 0
  else none

/-- A datum as a number of 64 bits without sign.  A float is rounded, a half away from zero,
    and brought into the range. -/
def toCount? : Datum → Option UInt64
  | integer i => if 0 ≤ i.toInt then some (UInt64.ofNat i.toInt.toNat) else none
  | float x => some x.round.toUInt64
  | boolean b => some (if b then 1 else 0)
  | text t => (switch? t).map UInt64.ofNat <|> Numeral.readUInt64? t
  | compound => none

/-- A datum as a text. -/
def toText? : Datum → Option Text
  | integer i => some (Numeral.ofInt i.toInt)
  | float x => some (Binary64.toText x)
  | boolean b => some (if b then "true".toList else "false".toList)
  | text t => some t
  | compound => none

end Datum

namespace Settings

/-- The name of the file of settings where the command line names none. -/
def standardName : Text := "rql".toList

/-- What the names of environment variables for settings begin with. -/
def variableStart : String := "FABRICA_RQL_"

/-- The keys of settings. -/
def keys : List String :=
  ["max_clauses", "max_values", "max_length", "like_wildcard", "default_limit"]

/-! ## Entries -/

/-- What is said about a setting; a later entry replaces an earlier one. -/
def find? (entries : List (Text × Datum)) (key : String) : Option Datum :=
  (entries.reverse.find? (·.1 == key.toList)).map (·.2)

/-- A setting as `read?` takes it from its datum, or what stands without one. -/
def setting {α : Type} (entries : List (Text × Datum)) (key : String) (read? : Datum → Option α)
    (standard : α) : Except Error α :=
  match find? entries key with
  | none => .ok standard
  | some d =>
    match read? d with
    | some a => .ok a
    | none => .error .settings

/-- The number of a setting, or what stands without it. -/
def count (entries : List (Text × Datum)) (key : String) (standard : Nat) : Except Error Nat :=
  setting entries key (fun d => d.toCount?.map UInt64.toNat) standard

/-- The settings that entries ask for. -/
def ofEntries (entries : List (Text × Datum)) : Except Error Settings := do
  return { maxClauses := ← count entries "max_clauses" standard.maxClauses
           maxValues := ← count entries "max_values" standard.maxValues
           maxLength := ← count entries "max_length" standard.maxLength
           likeWildcard := ← setting entries "like_wildcard" Datum.toText? standard.likeWildcard
           defaultLimit := ← setting entries "default_limit" (fun d => d.toCount?.map some) none }

/-! ## Sources -/

/-- The entries of environment variables, given by the parts of their names that follow the
    common beginning. -/
def ofVariables (environment : List (Text × Text)) : List (Text × Datum) :=
  environment.map fun (key, t) => Key.entry (Text.toLowerCase key) (Datum.ofVariable t)

/-- The settings that a file, if there is one, and environment variables ask for.  A mark of
    the byte order at the front of the file is no part of its document. -/
def ofSources (file : Option Text) (environment : List (Text × Text)) : Except Error Settings :=
  match file with
  | none => ofEntries (ofVariables environment)
  | some t =>
    match Document.read? (Text.withoutMark t) with
    | some entries =>
      ofEntries (entries.map (fun (key, d) => Key.entry key d) ++ ofVariables environment)
    | none => .error .settings

/-- The settings of a name, where `read` gives the content of files. -/
def load (read : Text → Option Text) (environment : List (Text × Text)) (name : Text) :
    Except Error Settings :=
  ofSources (Location.content? read name) environment

end Settings

end ResourceQuery
