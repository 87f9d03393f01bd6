/-
  Resource queries — documents.

  * `Document.read?`: the data of the keys of a document.  A document is a sequence of lines;
    a line gives the value of a key, `key = value`, or opens a table, `[name]` or `[[name]]`,
    to which the keys of the lines after it belong.
  * `Document.scanDatum?`: a value: a text, a truth value, a date or time as its text, an
    integer, a float, a list or a table within braces.
  * `Document.scanPath?`: keys with points between them, each a word or a quoted text.

  `#` begins a comment, which ends with the line.  Lists and tables within braces may hold line
  breaks and comments and end in a comma; nothing else goes beyond a line.
-/
import ResourceQuery.Document.Moment
import ResourceQuery.Document.Number
import ResourceQuery.Document.Table

namespace ResourceQuery.Document

/-! ## Blanks and comments -/

/-- The text without blanks at its front. -/
def skipBlanks (t : Text) : Text := t.dropWhile isInlineBlank

/-- The text without blanks, line breaks and comments at its front, where `inComment` tells
    whether it begins within a comment. -/
def skipLines (inComment : Bool) : Text → Text
  | '\n' :: t => skipLines false t
  | '\r' :: '\n' :: t => skipLines false t
  | c :: t =>
    if inComment then if isControl c then c :: t else skipLines true t
    else if isInlineBlank c then skipLines false t
    else if c == '#' then skipLines true t
    else c :: t
  | [] => []

/-- The text after the end of a line, which blanks and a comment may precede. -/
def afterLine? (t : Text) : Option Text :=
  let rest := match skipBlanks t with
    | '#' :: t => t.dropWhile fun c => !isControl c
    | t => t
  if rest.isEmpty then some [] else afterBreak? rest

/-! ## Keys -/

/-- The most keys in a path, and the most lists and tables around a value. -/
def depthLimit : Nat := 80

/-- A character of a word that is a key. -/
def isKeyChar (c : Char) : Bool := c.isAlphanum || c == '_' || c == '-'

/-- A key. -/
def scanKey? (t : Text) : Option (Text × Text) :=
  match t.takeWhile isKeyChar with
  | [] => scanLine? t
  | word => some (word, t.dropWhile isKeyChar)

/-- At most `limit` keys with points between them, and the blanks that follow. -/
def scanPath? (limit : Nat) (t : Text) : Option (List Text × Text) :=
  match limit with
  | 0 => none
  | limit + 1 => do
    let (key, t) ← scanKey? (skipBlanks t)
    match skipBlanks t with
    | '.' :: t =>
      let (path, t) ← scanPath? limit t
      return (key :: path, t)
    | t => return ([key], t)

/-! ## Single values -/

/-- A character of a value that is neither quoted nor compound. -/
def isWordChar (c : Char) : Bool :=
  !isInlineBlank c && c ∉ ['\n', '\r', '#', ',', '[', ']', '{', '}', '=', '"', '\'']

/-- A word as a datum. -/
def readWord? (t : Text) : Option Datum :=
  if t = "true".toList then some (.boolean true)
  else if t = "false".toList then some (.boolean false)
  else match readMoment? t, readInteger? t with
    | some moment, _ => some (.text moment)
    | none, some i => (Numeral.int64? i).map .integer
    | none, none => (readFloat? t).map .float

/-- Whether a text is a date and nothing else. -/
def isDay (t : Text) : Bool := ((scanDay? t).bind Calendar.complete).isSome

/-- A text, or a word as a datum.  The time after a date may follow a blank. -/
def scanSingle? (t : Text) : Option (Datum × Text) :=
  match scanText? t with
  | some (text, t) => some (.text text, t)
  | none =>
    let word := t.takeWhile isWordChar
    match t.dropWhile isWordChar with
    | ' ' :: c :: rest =>
      if isDay word ∧ c.isDigit then
        (readWord? (word ++ ' ' :: (c :: rest).takeWhile isWordChar)).map
          fun d => (d, (c :: rest).dropWhile isWordChar)
      else (readWord? word).map fun d => (d, ' ' :: c :: rest)
    | rest => (readWord? word).map fun d => (d, rest)

/-! ## Lists and tables -/

/-- A path of keys and its value, which `scan` takes. -/
def scanEntry? (scan : Text → Option (Datum × Text)) (t : Text) :
    Option (List Text × Datum × Text) := do
  let (path, t) ← scanPath? depthLimit t
  match t with
  | '=' :: t => (scan (skipBlanks t)).map fun (d, t) => (path, d, t)
  | _ => none

/-- The text after a list whose items `scan` takes; `fuel` bounds their number. -/
def afterItems? (scan : Text → Option (Datum × Text)) (fuel : Nat) (t : Text) : Option Text :=
  match fuel, skipLines false t with
  | 0, _ => none
  | _, ']' :: t => some t
  | fuel + 1, t => do
    let (_, t) ← scan t
    match skipLines false t with
    | ',' :: t => afterItems? scan fuel t
    | ']' :: t => some t
    | _ => none

/-- The text after a table whose values `scan` takes, where `es` is what the table holds so
    far; `fuel` bounds the number of its entries. -/
def afterEntries? (scan : Text → Option (Datum × Text)) (fuel : Nat) (es : Entries) (t : Text) :
    Option Text :=
  match fuel, skipLines false t with
  | 0, _ => none
  | _, '}' :: t => some t
  | fuel + 1, t => do
    let (path, d, t) ← scanEntry? scan t
    let es ← es.assign? d path
    match skipLines false t with
    | ',' :: t => afterEntries? scan fuel es t
    | '}' :: t => some t
    | _ => none

/-- A value within which lists and tables nest at most `depth` deep. -/
def scanDatum? : Nat → Text → Option (Datum × Text)
  | 0, '[' :: _ => none
  | 0, '{' :: _ => none
  | depth + 1, '[' :: t =>
    (afterItems? (scanDatum? depth) (t.length + 1) t).map fun t => (.compound, t)
  | depth + 1, '{' :: t =>
    (afterEntries? (scanDatum? depth) (t.length + 1) [] t).map fun t => (.compound, t)
  | _, t => scanSingle? t

/-! ## Lines -/

/-- A document in the course of reading. -/
structure Draft where
  /-- All tables. -/
  root : Entries := []
  /-- The path of the table that is open. -/
  header : List Text := []

/-- Takes a line in. -/
def scanStatement? (draft : Draft) : Text → Option (Draft × Text)
  | '[' :: '[' :: t => do
    let (path, t) ← scanPath? depthLimit t
    match t with
    | ']' :: ']' :: t => return ({ root := ← draft.root.append? path, header := path }, t)
    | _ => none
  | '[' :: t => do
    let (path, t) ← scanPath? depthLimit t
    match t with
    | ']' :: t => return ({ root := ← draft.root.open? path, header := path }, t)
    | _ => none
  | t => do
    let (path, d, t) ← scanEntry? (scanDatum? depthLimit) t
    return ({ draft with root := ← draft.root.change? (Entries.assign? d path) draft.header }, t)

/-- Takes all lines in; `fuel` bounds their number. -/
def readLines? (fuel : Nat) (draft : Draft) (t : Text) : Option Draft :=
  match fuel, skipLines false t with
  | 0, _ => none
  | _, [] => some draft
  | fuel + 1, t => do
    let (draft, t) ← scanStatement? draft t
    readLines? fuel draft (← afterLine? t)

/-- The data of the keys of a document.  A mark of the byte order may stand at its front. -/
def read? (t : Text) : Option (List (Text × Datum)) :=
  let t := Text.withoutMark t
  (readLines? (t.length + 1) {} t).map fun draft => draft.root.data

end ResourceQuery.Document
