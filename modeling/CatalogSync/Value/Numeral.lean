/-
**Numbers as they are written.**

* `Numeral` — the parts of a written number: a sign, digits, digits behind a point, and a power of
  ten.
* `Numeral.read?` — the parts of a text.
* `Numeral.value?` — the number that they write. A whole number that fits into 64 bits is kept as it
  is; any other becomes a float, of which the first digits count.
-/

import CatalogSync.Text.Digits
import CatalogSync.Value

namespace CatalogSync.Value

/-- The parts of a written number. -/
structure Numeral where
  isNegative : Bool
  whole : List Char
  /-- The digits behind the point, if there is one. -/
  fraction : Option (List Char)
  /-- The power of ten, if there is one. -/
  exponent : Option Int
  deriving DecidableEq, Repr

namespace Numeral

/-! ### Reading -/

/-- One or more digits before something else. -/
def digits? (letters : List Char) : Option (List Char × List Char) :=
  match letters.span Char.isDigit with
  | ([], _) => none
  | found => some found

/-- The digits of a whole number, without a needless zero before them, and what follows them. -/
def whole? (letters : List Char) : Option (List Char × List Char) :=
  match digits? letters with
  | some ('0' :: _ :: _, _) => none
  | found => found

/-- The digits behind a point, if there is one, and what follows them. -/
def fraction? (letters : List Char) : Option (Option (List Char) × List Char) :=
  match letters with
  | '.' :: rest => (digits? rest).map fun (digits, rest) => (some digits, rest)
  | _ => some (none, letters)

/-- A whole number that takes up all that is left. -/
def natural? (letters : List Char) : Option Nat :=
  if letters.isEmpty then none else Text.digits? 10 letters

/-- The power of ten at the end, if there is one. -/
def exponent? (letters : List Char) : Option (Option Int) :=
  match letters with
  | [] => some none
  | mark :: power =>
    if mark == 'e' || mark == 'E' then
      match power with
      | '-' :: digits => (natural? digits).map fun value => some (-(value : Int))
      | '+' :: digits => (natural? digits).map fun value => some value
      | digits => (natural? digits).map fun value => some value
    else
      none

/-- The parts of a text. -/
def read? (letters : List Char) : Option Numeral := do
  let (isNegative, letters) :=
    match letters with
    | '-' :: rest => (true, rest)
    | _ => (false, letters)
  let (whole, rest) ← whole? letters
  let (fraction, rest) ← fraction? rest
  let exponent ← exponent? rest
  some ⟨isNegative, whole, fraction, exponent⟩

/-! ### The number -/

/-- Takes digits into a number while it fits into 64 bits: the number and the digits left over. -/
def absorb (value : Nat) : List Char → Nat × List Char
  | [] => (value, [])
  | digit :: rest =>
    let next := value * 10 + (digit.toNat - '0'.toNat)
    if next < Text.wordLimit then absorb next rest else (value, digit :: rest)

/-- The highest power of ten that a float can have. -/
def highestPower : Nat := 308

/-- A power of ten. -/
def powerOfTen (exponent : Nat) : Float := Float.ofScientific 1 false exponent

/-- A float times a power of ten, unless this is out of range for being too large. -/
def scaled? (value : Float) (exponent : Int) : Option Float :=
  if exponent.natAbs ≤ highestPower then
    let power := powerOfTen exponent.natAbs
    some (if 0 ≤ exponent then value * power else value / power)
  else if value == 0 then some value
  else if 0 ≤ exponent then none
  else scaled? (value / powerOfTen highestPower) (exponent + highestPower)
  termination_by exponent.natAbs
  decreasing_by
    unfold highestPower at *
    omega

/-- The float that a number comes to, given the first digits before the point and those left over. A
digit that is left over before the point counts as a zero, and one behind it does not count. -/
def float? (numeral : Numeral) (start : Nat) (left : List Char) : Option FiniteFloat := do
  let fraction := numeral.fraction.getD []
  let (significand, ignored) := absorb start fraction
  let shift : Int := left.length - (fraction.length - ignored.length)
  let value ← scaled? (Float.ofNat significand) (shift + numeral.exponent.getD 0)
  FiniteFloat.of? (if numeral.isNegative then -value else value)

/-- The first number that is too large to fit into 64 bits with a minus sign. -/
def negativeLimit : Nat := 0x8000000000000001

/-- The number that the parts write, unless it is out of range. Only a float can be a negative zero.
-/
def value? (numeral : Numeral) : Option Value :=
  let (value, left) := absorb 0 numeral.whole
  let isWhole := left.isEmpty && numeral.fraction.isNone && numeral.exponent.isNone
  if isWhole && !numeral.isNegative then some (.number value)
  else if isWhole && 0 < value && value < negativeLimit then some (.number (-(value : Int)))
  else (numeral.float? value left).map .float

end Numeral

end CatalogSync.Value
