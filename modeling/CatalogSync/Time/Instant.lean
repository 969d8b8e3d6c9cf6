/-
**Instants.**

* `Instant` — a second since 1970-01-01 UTC and a fraction of it in nanoseconds. During a leap
  second the fraction counts on past one thousand million.
* `Instant.ofParts?` — the instant of two numbers, if they denote one that the calendar covers.
* `Instant.text` — the instant in the form of RFC 3339 with a chosen name for the zone.
-/

import CatalogSync.Time.Calendar

namespace CatalogSync.Time

/-- The number of nanoseconds of a second. -/
def nanosecondsPerSecond : Nat := 1000000000

/-- The number of seconds of a day. -/
def secondsPerDay : Nat := 86400

/-- A point in time. -/
structure Instant where
  /-- Seconds since the start of 1970, UTC, leap seconds not counted. -/
  seconds : Int
  /-- Nanoseconds past that second; one thousand million and more during a leap second. -/
  nanoseconds : Nat
  deriving Repr, DecidableEq, Inhabited

namespace Instant

/-- The first second that the calendar covers, the start of the year -262143. -/
def firstSecond : Int := -8334601228800

/-- The last second that the calendar covers, the end of the year 262142. -/
def lastSecond : Int := 8210266876799

/-- The instant of a second and a fraction. A fraction beyond one second stands for a leap second
and needs the last second of a minute. -/
def ofParts? (seconds : Int) (nanoseconds : Nat) : Option Instant :=
  let covered := firstSecond ≤ seconds && seconds ≤ lastSecond
  let regular := nanoseconds < nanosecondsPerSecond
  let leap := nanoseconds < 2 * nanosecondsPerSecond && seconds % 60 == 59
  if covered && (regular || leap) then some ⟨seconds, nanoseconds⟩ else none

/-- A number with zeros before it up to a width. -/
def padded (width number : Nat) : String :=
  let digits := Nat.toDigits 10 number
  String.ofList (List.replicate (width - digits.length) '0' ++ digits)

/-- A year: four digits from 0 to 9999, else a sign and at least four digits. -/
def yearText (year : Int) : String :=
  if 0 ≤ year ∧ year ≤ 9999 then padded 4 year.toNat
  else (if year < 0 then "-" else "+") ++ padded 4 year.natAbs

/-- A fraction of a second: nothing if it is zero, else the fewest of three, six or nine digits
that are exact. -/
def fractionText (nanoseconds : Nat) : String :=
  if nanoseconds = 0 then ""
  else if nanoseconds % 1000000 = 0 then "." ++ padded 3 (nanoseconds / 1000000)
  else if nanoseconds % 1000 = 0 then "." ++ padded 6 (nanoseconds / 1000)
  else "." ++ padded 9 nanoseconds

/-- The instant in UTC in the form of RFC 3339, with a name for the zone. A leap second is the
sixtieth second of its minute. -/
def text (instant : Instant) (zone : String) : String :=
  let date := Date.ofDayNumber (instant.seconds / secondsPerDay)
  let secondOfDay := (instant.seconds % secondsPerDay).toNat
  let leap := nanosecondsPerSecond ≤ instant.nanoseconds
  let second := secondOfDay % 60 + (if leap then 1 else 0)
  let fraction := instant.nanoseconds % nanosecondsPerSecond
  yearText date.year ++ "-" ++ padded 2 date.month ++ "-" ++ padded 2 date.day ++ "T" ++
    padded 2 (secondOfDay / 3600) ++ ":" ++ padded 2 (secondOfDay / 60 % 60) ++ ":" ++
    padded 2 second ++ fractionText fraction ++ zone

/-- The form in which instants are stored and sent, with the zone written `Z`. -/
def stored (instant : Instant) : String := instant.text "Z"

/-- The form in which instants are shown to people, with the zone written as an offset. -/
def shown (instant : Instant) : String := instant.text "+00:00"

end Instant

end CatalogSync.Time
