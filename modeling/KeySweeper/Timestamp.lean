/-!
# Points in time

A point in time is a number of seconds since the start of 1970 in UTC, with nanoseconds. The written
form is the profile of ISO 8601 used on the internet, with the offset spelt out. A second may hold
up to two thousand million nanoseconds: the upper half of that range is a leap second, written as a
sixtieth second.
-/

namespace KeySweeper

/-- A point in time in UTC. -/
structure Timestamp where
  /-- Seconds since the start of 1970, negative before it. -/
  seconds : Int
  /-- Nanoseconds within the second; a thousand million and more mark a leap second. -/
  nanos : Nat
deriving DecidableEq, Repr

namespace Timestamp

/-- The start of 1970. -/
def epoch : Timestamp := ⟨0, 0⟩

/-- A calendar day. -/
structure Day where
  /-- The year, counted with a year zero. -/
  year : Int
  /-- The month, from one. -/
  month : Nat
  /-- The day of the month, from one. -/
  day : Nat
deriving DecidableEq, Repr

/-- The calendar day that lies a number of days after the first of January 1970.

Years are counted from the first of March, so that the leap day is the last day of a year, and in
spans of four centuries, which all have the same number of days. -/
def dayOf (daysSinceEpoch : Int) : Day :=
  let days := daysSinceEpoch + 719468
  let era := days.fdiv 146097
  let dayOfEra := (days - era * 146097).toNat
  let yearOfEra := (dayOfEra - dayOfEra / 1460 + dayOfEra / 36524 - dayOfEra / 146096) / 365
  let dayOfYear := dayOfEra - (365 * yearOfEra + yearOfEra / 4 - yearOfEra / 100)
  let marchMonth := (5 * dayOfYear + 2) / 153
  let day := dayOfYear - (153 * marchMonth + 2) / 5 + 1
  let month := if marchMonth < 10 then marchMonth + 3 else marchMonth - 9
  let year := (yearOfEra : Int) + era * 400 + (if month ≤ 2 then 1 else 0)
  { year, month, day }

/-- A number with at least this many digits. -/
def padded (width n : Nat) : String :=
  let digits := toString n
  String.ofList (List.replicate (width - digits.length) '0') ++ digits

/-- A year has four digits; outside the first ten thousand years it also has a sign. -/
def yearText (year : Int) : String :=
  if year < 0 then "-" ++ padded 4 year.natAbs
  else if year > 9999 then "+" ++ padded 4 year.natAbs
  else padded 4 year.natAbs

/-- A fraction of a second with none, three, six or nine digits: the fewest that lose nothing. -/
def fractionText (nanos : Nat) : String :=
  if nanos = 0 then ""
  else if nanos % 1000000 = 0 then "." ++ padded 3 (nanos / 1000000)
  else if nanos % 1000 = 0 then "." ++ padded 6 (nanos / 1000)
  else "." ++ padded 9 nanos

/-- The written form, date and time joined by a letter T and the offset of UTC behind them. -/
def render (t : Timestamp) : String :=
  let days := t.seconds.fdiv 86400
  let second := (t.seconds - days * 86400).toNat
  let date := dayOf days
  let leap := 1000000000 ≤ t.nanos
  let shownSecond := if leap then second % 60 + 1 else second % 60
  let nanos := if leap then t.nanos - 1000000000 else t.nanos
  yearText date.year ++ "-" ++ padded 2 date.month ++ "-" ++ padded 2 date.day
    ++ "T" ++ padded 2 (second / 3600) ++ ":" ++ padded 2 (second / 60 % 60)
    ++ ":" ++ padded 2 shownSecond ++ fractionText nanos ++ "+00:00"

end Timestamp

end KeySweeper
