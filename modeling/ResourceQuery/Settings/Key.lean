/-
  Resource queries — keys of settings.

  * `Settings.Key.leadsInto`: whether a text is a path into a setting: steps such as `.name` to
    a named part and `[2]` or `[-1]` to an item of a list.
  * `Settings.Key.entry`: what an entry says about which setting.  A key that leads into a
    setting gives it parts, whatever the datum of the entry.
-/
import ResourceQuery.Document.Reader

namespace ResourceQuery.Settings.Key

/-- The text after the number of an item and its closing bracket.  Blanks may surround the
    number, and a minus sign may precede it. -/
def afterItem? (t : Text) : Option Text := do
  let t := Document.skipBlanks t
  let (negative, ds) := match t with
    | '-' :: t => (true, t)
    | t => (false, t)
  let n ← Numeral.readNat? (ds.takeWhile Char.isDigit)
  let _ ← Numeral.int64? (if negative then -(n : Int) else n)
  match Document.skipBlanks (ds.dropWhile Char.isDigit) with
  | ']' :: t => return t
  | _ => none

/-- Whether a text is a path into a setting; `fuel` bounds the number of steps. -/
def leadsInto (fuel : Nat) (t : Text) : Bool :=
  match fuel, t with
  | _, [] => true
  | 0, _ => false
  | fuel + 1, '.' :: t =>
    let name := t.takeWhile Document.isKeyChar
    !name.isEmpty && leadsInto fuel (t.dropWhile Document.isKeyChar)
  | fuel + 1, '[' :: t => (afterItem? t).any (leadsInto fuel)
  | _, _ => false

/-- The setting that an entry speaks of and what is said about it. -/
def entry (key : Text) (d : Datum) : Text × Datum :=
  let name := key.takeWhile Document.isKeyChar
  let steps := key.dropWhile Document.isKeyChar
  if name.isEmpty || steps.isEmpty || !leadsInto steps.length steps then (key, d)
  else (name, .compound)

end ResourceQuery.Settings.Key
