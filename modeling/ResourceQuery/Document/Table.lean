/-
  Resource queries — tables of documents.

  * `Node`: what a key of a table names: a datum, a table, or a list of tables.
  * `Entries.assign?`: a table with one more datum, at a path of keys.  A path makes the tables
    on its way; it leads through no table that a header has opened, and it ends in a table
    that such a path has made.
  * `Entries.change?`: a table with a change in one of its tables, at the path of a header.
  * `Entries.open?`, `Entries.append?`: a document with the table that a header opens, or with
    one more table in the list that a header names.
  * `Entries.data`: the data of the keys of a table.

  No key is given a value twice, and no header opens a table twice.  A path through a list of
  tables leads through the last of them.
-/
import ResourceQuery.Document.Datum

namespace ResourceQuery

/-- How a table came about. -/
inductive Node.Origin where
  /-- It stands on the way to a table that a header has opened. -/
  | implied
  /-- A path of keys has made it. -/
  | dotted
  /-- A header has opened it. -/
  | header
deriving DecidableEq

/-- What a key of a table names. -/
inductive Node where
  | datum (datum : Datum)
  | table (origin : Node.Origin) (entries : List (Text × Node))
  /-- A list of tables, the last of which is open. -/
  | tables (all : List (List (Text × Node)))

/-- What the keys of a table name. -/
abbrev Entries := List (Text × Node)

namespace Entries

/-- What a key names. -/
def find? (key : Text) (es : Entries) : Option Node := (List.find? (·.1 == key) es).map (·.2)

/-- The table in which a key names something else. -/
def replace (key : Text) (node : Node) (es : Entries) : Entries :=
  es.map fun e => if e.1 == key then (key, node) else e

/-- The tables with a change in the last of them. -/
def onLast? (f : Entries → Option Entries) (all : List Entries) : Option (List Entries) :=
  match all.reverse with
  | [] => none
  | last :: before => (f last).map fun last => (last :: before).reverse

/-! ## Paths of keys -/

/-- The table with a datum at a path of keys. -/
def assign? (d : Datum) : List Text → Entries → Option Entries
  | [], _ => none
  | [key], es => if (find? key es).isSome then none else some (es ++ [(key, .datum d)])
  | key :: path, es =>
    match find? key es with
    | none => (assign? d path []).map fun inner => es ++ [(key, .table .dotted inner)]
    | some (.datum _) => none
    | some (.table origin inner) =>
      if origin = .header ∨ path.length = 1 ∧ origin ≠ .dotted then none
      else (assign? d path inner).map fun inner => replace key (.table origin inner) es
    | some (.tables all) =>
      if path.length = 1 then none
      else (onLast? (assign? d path) all).map fun all => replace key (.tables all) es

/-! ## Headers -/

/-- The table with a change in its table at the path of a header.  Tables that are missing on
    the way are made. -/
def change? (f : Entries → Option Entries) : List Text → Entries → Option Entries
  | [], es => f es
  | key :: path, es =>
    match find? key es with
    | none => (change? f path []).map fun inner => es ++ [(key, .table .implied inner)]
    | some (.datum _) => none
    | some (.table origin inner) =>
      (change? f path inner).map fun inner => replace key (.table origin inner) es
    | some (.tables all) =>
      (onLast? (change? f path) all).map fun all => replace key (.tables all) es

/-- The document with the table of a header opened. -/
def open? (path : List Text) (es : Entries) : Option Entries :=
  path.getLast?.bind fun key =>
    change? (fun es =>
      match find? key es with
      | none => some (es ++ [(key, .table .header [])])
      | some (.table .implied inner) => some (replace key (.table .header inner) es)
      | some _ => none) path.dropLast es

/-- The document with one more table in the list of a header. -/
def append? (path : List Text) (es : Entries) : Option Entries :=
  path.getLast?.bind fun key =>
    change? (fun es =>
      match find? key es with
      | none => some (es ++ [(key, .tables [[]])])
      | some (.tables all) => some (replace key (.tables (all ++ [[]])) es)
      | some _ => none) path.dropLast es

/-! ## Data -/

/-- The data of the keys. -/
def data (es : Entries) : List (Text × Datum) :=
  es.map fun (key, node) =>
    match node with
    | .datum d => (key, d)
    | _ => (key, .compound)

end Entries

end ResourceQuery
