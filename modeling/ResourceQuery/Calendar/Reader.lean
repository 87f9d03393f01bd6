/-
  Resource queries — reading dates and instants.

  * `Date.read?`: year, month and day with hyphens between them.  Blanks may stand before
    each number; a year has up to four digits, or any number of them after a sign.
  * `Calendar.readOffset?`: a date-time of fixed width with an offset from universal time.
  * `Calendar.readPlain?`: a date-time without an offset, as lenient as dates are; it is taken
    to be in universal time.
  * `Instant.read?`: either form.

  A scanner takes a leading part of a text and gives what it denotes and the rest.
-/
import ResourceQuery.Calendar.Instant
import ResourceQuery.Text.Blank

namespace ResourceQuery

namespace Calendar

/-! ## Scanners -/

/-- Between one and `most` digits. -/
def scanNumber (most : Nat) (t : Text) : Option (Nat × Text) :=
  let ds := (t.take most).takeWhile Char.isDigit
  if ds.isEmpty then none else some (Numeral.value ds, t.drop ds.length)

/-- Exactly `count` digits. -/
def scanDigits (count : Nat) (t : Text) : Option (Nat × Text) :=
  let ds := t.take count
  if ds.length = count && ds.all Char.isDigit then some (Numeral.value ds, t.drop count)
  else none

/-- One given character. -/
def scanChar (c : Char) : Text → Option Text
  | [] => none
  | d :: t => if d = c then some t else none

/-- A year after blanks: up to four digits, or any number of them after a sign. -/
def scanYear (t : Text) : Option (Int × Text) :=
  match Text.trimStart t with
  | '-' :: t => (scanNumber t.length t).map fun (n, t) => (-(n : Int), t)
  | '+' :: t => (scanNumber t.length t).map fun (n, t) => ((n : Int), t)
  | t => (scanNumber 4 t).map fun (n, t) => ((n : Int), t)

/-- One or two digits after blanks. -/
def scanShort (t : Text) : Option (Nat × Text) := scanNumber 2 (Text.trimStart t)

/-- Nanoseconds after a point; digits past the ninth are dropped. -/
def scanFraction : Text → Option (Nat × Text)
  | '.' :: t =>
    let ds := t.takeWhile Char.isDigit
    if ds.isEmpty then none
    else
      let nine := ds.take 9
      some (Numeral.value nine * Numeral.tenTo (9 - nine.length), t.dropWhile Char.isDigit)
  | t => some (0, t)

/-! ## Dates -/

/-- A date with hyphens. -/
def scanDate (t : Text) : Option (Date × Text) := do
  let (year, t) ← scanYear t
  let t ← scanChar '-' t
  let (month, t) ← scanShort t
  let t ← scanChar '-' t
  let (day, t) ← scanShort t
  let date ← Date.ofParts? year month day
  return (date, t)

/-- The value when nothing follows it. -/
def complete {α : Type} : α × Text → Option α
  | (a, []) => some a
  | (_, _ :: _) => none

/-! ## Instants -/

/-- The instant of a day at hours, minutes, seconds and nanoseconds; the 60th second of a
    minute is a leap second. -/
def atTime? (date : Date) (hour minute second nano : Nat) : Option Instant :=
  if hour < 24 ∧ minute < 60 ∧ second ≤ 60 then
    if second = 60 then
      Instant.ofParts? date (3600 * hour + 60 * minute + 59) (nano + 1000000000)
    else Instant.ofParts? date (3600 * hour + 60 * minute + second) nano
  else none

/-- An offset from universal time in minutes: `Z`, or hours and minutes after a sign. -/
def scanOffset : Text → Option (Int × Text)
  | 'Z' :: t => some (0, t)
  | 'z' :: t => some (0, t)
  | sign :: t => do
    let (hours, t) ← scanDigits 2 t
    let t ← scanChar ':' t
    let (minutes, t) ← scanDigits 2 t
    if hours < 24 ∧ minutes < 60 then
      if sign = '+' then some (60 * hours + minutes, t)
      else if sign = '-' ∨ sign = '\u2212' then some (-(60 * hours + minutes : Int), t)
      else none
    else none
  | [] => none

/-- Reads a date-time with an offset. -/
def readOffset? (t : Text) : Option Instant := do
  let (year, t) ← scanDigits 4 t
  let t ← scanChar '-' t
  let (month, t) ← scanDigits 2 t
  let t ← scanChar '-' t
  let (day, t) ← scanDigits 2 t
  let t ← match t with
    | c :: t => if c = 'T' ∨ c = 't' ∨ c = ' ' then some t else none
    | [] => none
  let (hour, t) ← scanDigits 2 t
  let t ← scanChar ':' t
  let (minute, t) ← scanDigits 2 t
  let t ← scanChar ':' t
  let (second, t) ← scanDigits 2 t
  let (nano, t) ← scanFraction t
  let offset ← (scanOffset t).bind complete
  let date ← Date.ofParts? year month day
  let there ← atTime? date hour minute second nano
  there.shift? (-offset)

/-- Reads a date-time without an offset, where `between` passes from the date to the time. -/
def readPlain? (between : Text → Option Text) (t : Text) : Option Instant := do
  let (date, t) ← scanDate t
  let t ← between t
  let (hour, t) ← scanShort t
  let t ← scanChar ':' t
  let (minute, t) ← scanShort t
  let t ← scanChar ':' t
  let (second, t) ← scanShort t
  let nano ← (scanFraction t).bind complete
  atTime? date hour minute second nano

end Calendar

/-- Reads a date; nothing may follow it. -/
def Date.read? (t : Text) : Option Date := (Calendar.scanDate t).bind Calendar.complete

/-- Reads an instant: with an offset, with a `T` before the time, or with blanks there. -/
def Instant.read? (t : Text) : Option Instant :=
  Calendar.readOffset? t <|> Calendar.readPlain? (Calendar.scanChar 'T') t <|>
    Calendar.readPlain? (some ∘ Text.trimStart) t

end ResourceQuery
