/-
**Digits and the numbers that they write.**

* `digit?` — the value of a digit in a base up to sixteen.
* `digits?` — the value of several digits; of none it is zero.
* `decimal` — the number that a text in a setting writes: decimal digits after an optional plus
  sign, below a limit; or what is wrong with the text.
* `word?` — the same for numbers below 2^64.
-/

namespace CatalogSync.Text

/-! ### Digits -/

/-- The value of a character as a digit, sixteen if it is none. -/
def digitValue (character : Char) : Nat :=
  if character.isDigit then character.toNat - '0'.toNat
  else if 'a' ≤ character ∧ character ≤ 'f' then character.toNat - 'a'.toNat + 10
  else if 'A' ≤ character ∧ character ≤ 'F' then character.toNat - 'A'.toNat + 10
  else 16

/-- The value of a digit in a base up to sixteen. -/
def digit? (base : Nat) (character : Char) : Option Nat :=
  if digitValue character < min base 16 then some (digitValue character) else none

/-- The value of digits, the first of which counts most. -/
def digits? (base : Nat) (characters : List Char) : Option Nat :=
  characters.foldlM (fun value character => (digit? base character).map (value * base + ·)) 0

/-! ### Numbers in settings -/

/-- The first number that does not fit into 64 bits. -/
def wordLimit : Nat := 18446744073709551616

/-- Why a text is no number. -/
inductive NumberProblem where
  | empty
  | invalidDigit
  | tooLarge
  deriving DecidableEq, Repr

/-- The complaint about a problem. -/
def NumberProblem.message : NumberProblem → String
  | .empty => "cannot parse integer from empty string"
  | .invalidDigit => "invalid digit found in string"
  | .tooLarge => "number too large to fit in target type"

/-- A number with one more digit. -/
def withDigit (limit value : Nat) (character : Char) : Except NumberProblem Nat :=
  if character.isDigit then
    if value * 10 + (character.toNat - '0'.toNat) < limit then
      .ok (value * 10 + (character.toNat - '0'.toNat))
    else
      .error .tooLarge
  else
    .error .invalidDigit

/-- The number that one or more digits write; the first problem counts. -/
def decimalOfDigits (limit : Nat) : List Char → Except NumberProblem Nat
  | [] => .error .invalidDigit
  | first :: rest => do
    let value ← withDigit limit 0 first
    rest.foldlM (withDigit limit) value

/-- The number below a limit that a text writes. -/
def decimal (limit : Nat) (text : String) : Except NumberProblem Nat :=
  match text.toList with
  | [] => .error .empty
  | '+' :: digits => decimalOfDigits limit digits
  | digits => decimalOfDigits limit digits

/-- The number below 2^64 that a text writes. -/
def word? (text : String) : Option Nat := (decimal wordLimit text).toOption

end CatalogSync.Text
