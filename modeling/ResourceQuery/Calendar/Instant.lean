/-
  Resource queries — instants.

  * `Instant`: a moment in universal time: a day, a second of it and nanoseconds, which may run on
    for another second.  In the last second of a minute that is a leap second.
  * `Instant.midnight`, `Instant.date?`: a day as the instant it begins at, and back.
  * `Instant.shift?`: the instant some minutes earlier or later.
  * `Instant.cmp`: days first, then seconds, then nanoseconds.
  * `Instant.toText`: `2024-01-05T08:30:00Z`, with as few groups of three fraction digits as
    lose nothing.  Nanoseconds that run on count as the second after, the 60th of a minute for a
    leap second.
-/
import ResourceQuery.Calendar.Date

namespace ResourceQuery

/-- Whether a second of the day and nanoseconds denote a time; in any second the nanoseconds may
    run on for another one. -/
def IsTimeOfDay (second nano : Nat) : Prop := second < 86400 ∧ nano < 2000000000

instance (second nano : Nat) : Decidable (IsTimeOfDay second nano) :=
  inferInstanceAs (Decidable (_ ∧ _))

/-- A moment in universal time. -/
structure Instant where
  date : Date
  second : Nat
  nano : Nat
  valid : IsTimeOfDay second nano
deriving DecidableEq

namespace Instant

/-- The moment with the given day and time. -/
def ofParts? (date : Date) (second nano : Nat) : Option Instant :=
  if h : IsTimeOfDay second nano then some ⟨date, second, nano, h⟩ else none

/-- The beginning of a day. -/
def midnight (d : Date) : Instant := ⟨d, 0, 0, by decide⟩

/-- The beginning of the first of January 1970. -/
def epoch : Instant := midnight Date.epoch

/-- The day that begins at the instant. -/
def date? (i : Instant) : Option Date :=
  if i.second = 0 ∧ i.nano = 0 then some i.date else none

/-- The instant `minutes` later; less than a day in either direction. -/
def shift? (i : Instant) (minutes : Int) : Option Instant :=
  let second := i.second + 60 * minutes
  if second < 0 then
    i.date.previous?.bind fun d => ofParts? d (second + 86400).toNat i.nano
  else if second < 86400 then ofParts? i.date second.toNat i.nano
  else i.date.next?.bind fun d => ofParts? d (second - 86400).toNat i.nano

/-- The order of the instants. -/
def cmp (a b : Instant) : Ordering :=
  (Date.cmp a.date b.date).then ((compare a.second b.second).then (compare a.nano b.nano))

/-- A fraction of a second in nanoseconds, in 0, 3, 6 or 9 digits after a point. -/
def fractionText (nano : Nat) : Text :=
  if nano = 0 then []
  else if nano % 1000000 = 0 then '.' :: Numeral.padded 3 (nano / 1000000)
  else if nano % 1000 = 0 then '.' :: Numeral.padded 6 (nano / 1000)
  else '.' :: Numeral.padded 9 nano

/-- Hours, minutes and seconds, with the second after for nanoseconds that run on. -/
def timeText (second nano : Nat) : Text :=
  let leap := nano / 1000000000
  Numeral.padded 2 (second / 3600) ++ ':' :: Numeral.padded 2 (second / 60 % 60) ++
    ':' :: Numeral.padded 2 (second % 60 + leap) ++ fractionText (nano % 1000000000)

/-- The instant with its date, its time and the mark of universal time. -/
def toText (i : Instant) : Text :=
  i.date.toText ++ 'T' :: timeText i.second i.nano ++ ['Z']

end Instant

end ResourceQuery
