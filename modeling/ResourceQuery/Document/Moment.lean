/-
  Resource queries — dates and times in documents.

  * `Document.readMoment?`: a date, a time of day, or both with or without an offset, in its
    normal form: a capital `T` between date and time, a capital `Z`, at most nine fraction
    digits without zeros at their end, and an offset of zero with a plus sign.

  All numbers are of fixed width.  The seconds of a time may be missing.
-/
import ResourceQuery.Calendar.Reader

namespace ResourceQuery.Document

/-- The two digits of a number below a bound. -/
def scanPair? (bound : Nat) (t : Text) : Option (Text × Text) := do
  let (n, rest) ← Calendar.scanDigits 2 t
  if n < bound then return (t.take 2, rest) else none

/-- The fraction of a second, when there is one. -/
def scanFraction? : Text → Option (Text × Text)
  | '.' :: t =>
    let ds := t.takeWhile Char.isDigit
    let kept := ((ds.take 9).reverse.dropWhile (· == '0')).reverse
    if ds.isEmpty then none
    else some ('.' :: (if kept.isEmpty then ['0'] else kept), t.dropWhile Char.isDigit)
  | t => some ([], t)

/-- The seconds of a time, when there are some; the 60th may be a leap second. -/
def scanSeconds? : Text → Option (Text × Text)
  | ':' :: t => do
    let (second, t) ← scanPair? 61 t
    let (fraction, t) ← scanFraction? t
    return (':' :: second ++ fraction, t)
  | t => some ([], t)

/-- A time of day. -/
def scanTime? (t : Text) : Option (Text × Text) := do
  let (hour, t) ← scanPair? 24 t
  let t ← Calendar.scanChar ':' t
  let (minute, t) ← scanPair? 60 t
  let (seconds, t) ← scanSeconds? t
  return (hour ++ ':' :: minute ++ seconds, t)

/-- A date. -/
def scanDay? (t : Text) : Option (Text × Text) := do
  let (year, rest) ← Calendar.scanDigits 4 t
  let rest ← Calendar.scanChar '-' rest
  let (month, rest) ← Calendar.scanDigits 2 rest
  let rest ← Calendar.scanChar '-' rest
  let (day, rest) ← Calendar.scanDigits 2 rest
  if IsCalendarDay year month day then return (t.take 10, rest) else none

/-- The offset of a time, when there is one. -/
def readOffset? : Text → Option Text
  | [] => some []
  | ['Z'] => some ['Z']
  | ['z'] => some ['Z']
  | sign :: t => do
    let (hour, t) ← scanPair? 24 t
    let t ← Calendar.scanChar ':' t
    let (minute, t) ← scanPair? 60 t
    let offset := hour ++ ':' :: minute
    if !t.isEmpty then none
    else if sign = '+' ∨ sign = '-' ∧ offset = "00:00".toList then some ('+' :: offset)
    else if sign = '-' then some ('-' :: offset)
    else none

/-- What follows a date: nothing, or a time with or without an offset. -/
def readAfterDay? : Text → Option Text
  | [] => some []
  | mark :: t =>
    if mark == 'T' || mark == 't' || mark == ' ' then do
      let (time, t) ← scanTime? t
      let offset ← readOffset? t
      return 'T' :: time ++ offset
    else none

/-- A date, a time or both. -/
def readMoment? (t : Text) : Option Text :=
  match scanDay? t with
  | some (day, rest) => (readAfterDay? rest).map (day ++ ·)
  | none => (scanTime? t).bind Calendar.complete

end ResourceQuery.Document
