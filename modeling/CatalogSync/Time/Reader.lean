/-
**Reading instants.**

* `Instant.read?` — the instant of a text that gives a date, a time of day and an offset from UTC.

The form is that of RFC 3339, read leniently: blanks may stand before each number and each
separator, the date and the time of day may be parted by a blank, the numbers may lack their leading
zeros, the offset may lack its colon, and the zone may be named `Z` or `UTC` in letters of either
size. The sixtieth second of a minute is a leap second.
-/

import CatalogSync.Text.Blank
import CatalogSync.Time.Instant

namespace CatalogSync.Time

namespace Reader

/-- The characters from the first one that is not blank. -/
def skipBlanks (characters : List Char) : List Char :=
  characters.dropWhile Text.isBlank

/-- The value of decimal digits. -/
def digitsValue (digits : List Char) : Nat :=
  digits.foldl (fun value digit => value * 10 + (digit.toNat - '0'.toNat)) 0

/-- A number of one to `width` decimal digits. -/
def digits (width : Nat) (characters : List Char) : Option (Nat × List Char) :=
  let found := (characters.take width).takeWhile Char.isDigit
  if found.isEmpty then none else some (digitsValue found, characters.drop found.length)

/-- A number of one or two digits within bounds, after any blanks. -/
def bounded (least most : Nat) (characters : List Char) : Option (Nat × List Char) := do
  let (value, rest) ← digits 2 (skipBlanks characters)
  if least ≤ value ∧ value ≤ most then some (value, rest) else none

/-- A character that has to be there, after any blanks. -/
def separator (wanted : Char) (characters : List Char) : Option (List Char) :=
  match skipBlanks characters with
  | found :: rest => if found = wanted then some rest else none
  | [] => none

/-- A year: up to four digits, or a sign and any number of digits. -/
def year (characters : List Char) : Option (Int × List Char) :=
  match skipBlanks characters with
  | '-' :: rest => (digits rest.length rest).map fun (value, rest) => (-(value : Int), rest)
  | '+' :: rest => (digits rest.length rest).map fun (value, rest) => ((value : Int), rest)
  | rest => (digits 4 rest).map fun (value, rest) => ((value : Int), rest)

/-- A date. -/
def date (characters : List Char) : Option (Date × List Char) := do
  let (year, rest) ← year characters
  let (month, rest) ← bounded 1 12 (← separator '-' rest)
  let (day, rest) ← bounded 1 31 (← separator '-' rest)
  let date : Date := ⟨year, month, day⟩
  if date.isValid then some (date, rest) else none

/-- A fraction in nanoseconds: a point and at least one digit, of which nine count, or nothing. -/
def fraction (characters : List Char) : Option (Nat × List Char) :=
  match characters with
  | '.' :: rest => do
    let (value, _) ← digits 9 rest
    let found := rest.takeWhile Char.isDigit
    some (value * Nat.pow 10 (9 - min 9 found.length), rest.drop found.length)
  | rest => some (0, rest)

/-- A time of day as seconds and nanoseconds. -/
def timeOfDay (characters : List Char) : Option ((Nat × Nat) × List Char) := do
  let (hour, rest) ← bounded 0 23 characters
  let (minute, rest) ← bounded 0 59 (← separator ':' rest)
  let (second, rest) ← bounded 0 60 (← separator ':' rest)
  let (nanoseconds, rest) ← fraction rest
  let seconds := hour * 3600 + minute * 60
  if second = 60 then
    some ((seconds + 59, nanosecondsPerSecond + nanoseconds), rest)
  else
    some ((seconds + second, nanoseconds), rest)

/-- Two decimal digits, the first of them at most `most`. -/
def twoDigits (most : Char) (characters : List Char) : Option (Nat × List Char) :=
  match characters with
  | tens :: ones :: rest =>
    if tens.isDigit ∧ tens ≤ most ∧ ones.isDigit then some (digitsValue [tens, ones], rest)
    else none
  | _ => none

/-- A signed offset of hours and minutes in seconds; it is less than a day. -/
def signedOffset (characters : List Char) : Option (Int × List Char) := do
  let (sign, rest) ← match characters with
    | '+' :: rest => some ((1 : Int), rest)
    | '-' :: rest => some (-1, rest)
    | '\u2212' :: rest => some (-1, rest)
    | _ => none
  let (hours, rest) ← twoDigits '9' rest
  let rest := rest.dropWhile fun character => character == ':' || Text.isBlank character
  let (minutes, rest) ← twoDigits '5' rest
  let seconds := hours * 3600 + minutes * 60
  if seconds < secondsPerDay then some (sign * seconds, rest) else none

/-- An offset from UTC in seconds. -/
def offset (characters : List Char) : Option (Int × List Char) :=
  let characters := skipBlanks characters
  if (characters.take 3).map Char.toUpper = ['U', 'T', 'C'] then some (0, characters.drop 3)
  else
    match characters with
    | 'Z' :: rest => some (0, rest)
    | 'z' :: rest => some (0, rest)
    | _ => signedOffset characters

end Reader

open Reader in
/-- The instant that a text gives as a date, a time of day and an offset from UTC. -/
def Instant.read? (text : String) : Option Instant := do
  let (date, rest) ← date text.toList
  let rest ← match rest with
    | 't' :: rest => some rest
    | 'T' :: rest => some rest
    | ' ' :: rest => some rest
    | _ => none
  let ((seconds, nanoseconds), rest) ← timeOfDay rest
  let (offset, rest) ← offset rest
  if (skipBlanks rest).isEmpty then
    let second := date.dayNumber * secondsPerDay + seconds
    let instant : Instant := ⟨second - offset, nanoseconds⟩
    if firstSecond ≤ second ∧ second ≤ lastSecond ∧ firstSecond ≤ instant.seconds ∧
        instant.seconds ≤ lastSecond then
      some instant
    else
      none
  else
    none

end CatalogSync.Time
