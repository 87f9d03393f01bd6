/-
  Resource queries — quoted texts in documents.

  * `Document.scanText?`: a text between double or single quotes.  Between double quotes a
    backslash escapes; between single quotes every character stands for itself.
  * `Document.scanLine?`: the same within one line, for keys.

  Three quotes open a text of several lines, which three such quotes close again.  A line break
  right after the opening is no part of it, and neither is one after a backslash, together with
  all blanks and line breaks that follow.

  A scanner takes a leading part of a text and gives what it denotes and the rest.
-/
import ResourceQuery.Text.Basic

namespace ResourceQuery.Document

/-! ## Characters -/

/-- A blank within a line. -/
def isInlineBlank (c : Char) : Bool := c == ' ' || c == '\t'

/-- A control character, which no text and no comment may hold; the tab is none. -/
def isControl (c : Char) : Bool := (c.toNat < 0x20 && c != '\t') || c.toNat == 0x7F

/-- The number denoted by hexadecimal digits. -/
def hexValue? (t : Text) : Option Nat :=
  t.foldl (fun n c => n.bind fun n =>
    if c.isDigit then some (16 * n + (c.toNat - 48))
    else if 'a' ≤ c ∧ c ≤ 'f' then some (16 * n + (c.toNat - 87))
    else if 'A' ≤ c ∧ c ≤ 'F' then some (16 * n + (c.toNat - 55))
    else none) (some 0)

/-- The character with a number. -/
def charOf? (n : Nat) : Option Char :=
  if h : n.isValidChar then some (Char.ofNatAux n h) else none

/-! ## Escapes -/

/-- The character that a letter after a backslash stands for. -/
def escape? : Char → Option Char
  | 'b' => some '\x08'
  | 't' => some '\t'
  | 'n' => some '\n'
  | 'f' => some '\x0c'
  | 'r' => some '\r'
  | 'e' => some '\x1b'
  | '"' => some '"'
  | '\\' => some '\\'
  | _ => none

/-- A character given by `width` hexadecimal digits. -/
def scanCode? (width : Nat) (t : Text) : Option (Char × Text) :=
  if (t.take width).length = width then
    ((hexValue? (t.take width)).bind charOf?).map fun c => (c, t.drop width)
  else none

/-- What follows a backslash between double quotes. -/
def scanEscape? : Text → Option (Char × Text)
  | [] => none
  | 'x' :: t => scanCode? 2 t
  | 'u' :: t => scanCode? 4 t
  | 'U' :: t => scanCode? 8 t
  | c :: t => (escape? c).map fun d => (d, t)

/-- The text after a line break. -/
def afterBreak? : Text → Option Text
  | '\n' :: t => some t
  | '\r' :: '\n' :: t => some t
  | _ => none

/-- The text without blanks and line breaks at its front. -/
def skipBreaks : Text → Text
  | '\n' :: t => skipBreaks t
  | '\r' :: '\n' :: t => skipBreaks t
  | c :: t => if isInlineBlank c then skipBreaks t else c :: t
  | [] => []

/-- The text after an escaped line break: blanks, a line break, and all blanks and line breaks
    that follow. -/
def afterJoin? (t : Text) : Option Text :=
  (afterBreak? (t.dropWhile isInlineBlank)).map skipBreaks

/-! ## Texts of one line -/

/-- A text up to its closing double quote; `fuel` bounds the number of characters. -/
def scanBasic? (fuel : Nat) (t : Text) : Option (Text × Text) :=
  match fuel, t with
  | 0, _ => none
  | _, [] => none
  | _, '"' :: t => some ([], t)
  | fuel + 1, '\\' :: t => do
    let (c, t) ← scanEscape? t
    let (s, t) ← scanBasic? fuel t
    return (c :: s, t)
  | fuel + 1, c :: t =>
    if isControl c then none else (scanBasic? fuel t).map fun (s, t) => (c :: s, t)

/-- A text up to its closing single quote. -/
def scanLiteral? : Text → Option (Text × Text)
  | [] => none
  | '\'' :: t => some ([], t)
  | c :: t => if isControl c then none else (scanLiteral? t).map fun (s, t) => (c :: s, t)

/-- A text of one line between quotes of either kind. -/
def scanLine? : Text → Option (Text × Text)
  | '"' :: t => scanBasic? (t.length + 1) t
  | '\'' :: t => scanLiteral? t
  | _ => none

/-! ## Texts of several lines -/

/-- What three quotes close: of more quotes right after them, up to two belong to the text. -/
def scanClosing (quote : Char) : Text → Text × Text
  | a :: b :: t =>
    if a ≠ quote then ([], a :: b :: t)
    else if b ≠ quote then ([a], b :: t)
    else ([a, b], t)
  | [a] => if a = quote then ([a], []) else ([], [a])
  | [] => ([], [])

/-- A text up to its three closing double quotes; `fuel` bounds the number of characters. -/
def scanBasicLines? (fuel : Nat) (t : Text) : Option (Text × Text) :=
  match fuel, t with
  | 0, _ => none
  | _, [] => none
  | _, '"' :: '"' :: '"' :: t => some (scanClosing '"' t)
  | fuel + 1, '\\' :: t =>
    match afterJoin? t with
    | some t => scanBasicLines? fuel t
    | none => do
      let (c, t) ← scanEscape? t
      let (s, t) ← scanBasicLines? fuel t
      return (c :: s, t)
  | fuel + 1, '\r' :: '\n' :: t =>
    (scanBasicLines? fuel t).map fun (s, t) => ('\r' :: '\n' :: s, t)
  | fuel + 1, c :: t =>
    if c != '\n' && isControl c then none
    else (scanBasicLines? fuel t).map fun (s, t) => (c :: s, t)

/-- A text up to its three closing single quotes. -/
def scanLiteralLines? : Text → Option (Text × Text)
  | [] => none
  | '\'' :: '\'' :: '\'' :: t => some (scanClosing '\'' t)
  | '\r' :: '\n' :: t => (scanLiteralLines? t).map fun (s, t) => ('\r' :: '\n' :: s, t)
  | c :: t =>
    if c != '\n' && isControl c then none
    else (scanLiteralLines? t).map fun (s, t) => (c :: s, t)

/-- A text between quotes, of one line or of several. -/
def scanText? : Text → Option (Text × Text)
  | '"' :: '"' :: '"' :: t =>
    let t := (afterBreak? t).getD t
    scanBasicLines? (t.length + 1) t
  | '\'' :: '\'' :: '\'' :: t => scanLiteralLines? ((afterBreak? t).getD t)
  | t => scanLine? t

end ResourceQuery.Document
