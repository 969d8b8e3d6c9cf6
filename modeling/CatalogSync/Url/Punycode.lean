/-
**Punycode.**

* `Punycode.encode` — a text in letters, digits and dashes of ASCII: first its characters within
  ASCII and a dash, then all others, in ascending order, by the distances between them.
* `Punycode.decode?` — the text that such a text stands for.
* `Punycode.threshold_pos` — a digit ranges over at least one value, so that a distance has an end.

Distances have digits of varying ranges, which follow the distances before them. A reader keeps to
32 bits: a text whose numbers exceed them stands for nothing.
-/

namespace CatalogSync.Url.Punycode

/-! ### Digits -/

/-- The character of a digit: letters, then figures. -/
def digitCharacter (value : Nat) : Char :=
  if value < 26 then Char.ofNat ('a'.toNat + value) else Char.ofNat ('0'.toNat + (value - 26))

/-- The digit of a character. -/
def digit? (character : Char) : Option Nat :=
  if 'a' ≤ character ∧ character ≤ 'z' then some (character.toNat - 'a'.toNat)
  else if 'A' ≤ character ∧ character ≤ 'Z' then some (character.toNat - 'A'.toNat)
  else if character.isDigit then some (character.toNat - '0'.toNat + 26)
  else none

/-- The size of a digit's range at a position. -/
def threshold (position bias : Nat) : Nat :=
  if position ≤ bias then 1 else if bias + 26 ≤ position then 26 else position - bias

/-- Every range has a digit. -/
theorem threshold_pos (position bias : Nat) : 0 < threshold position bias := by
  unfold threshold
  split
  · omega
  · split <;> omega

/-! ### Bias -/

/-- Divides a distance until it is small, and counts. -/
def settle (count value : Nat) : Nat × Nat :=
  if 455 < value then settle (count + 36) (value / 35) else (count, value)
  termination_by value
  decreasing_by exact Nat.div_lt_self (by omega) (by omega)

/-- The bias after a distance, given the number of characters that have a place by then. -/
def adapt (value points : Nat) (isFirst : Bool) : Nat :=
  let value := if isFirst then value / 700 else value / 2
  let (count, value) := settle 0 (value + value / points)
  count + 36 * value / (value + 38)

/-! ### Writing -/

/-- Writes a distance from the digit at a position on. -/
def distance (bias position rest : Nat) : List Char :=
  let range := threshold position bias
  if rest < range then [digitCharacter rest]
  else
    digitCharacter (range + (rest - range) % (36 - range)) ::
      distance bias (position + 36) ((rest - range) / (36 - range))
  termination_by rest
  decreasing_by
    have positive := threshold_pos position bias
    have smaller := Nat.div_le_self (rest - threshold position bias) (36 - threshold position bias)
    omega

/-- What a writer remembers. -/
structure Writer where
  delta : Nat
  bias : Nat
  handled : Nat
  isFirst : Bool
  written : List Char

/-- Takes in one character of the text on the pass for a code point. -/
def Writer.step (point : Nat) (writer : Writer) (character : Char) : Writer :=
  let code := character.toNat
  if code < point then { writer with delta := writer.delta + 1 }
  else if code = point then
    { delta := 0
      bias := adapt writer.delta (writer.handled + 1) writer.isFirst
      handled := writer.handled + 1
      isFirst := false
      written := writer.written ++ distance writer.bias 36 writer.delta }
  else writer

/-- One pass over the text for every code point outside of ASCII, in ascending order. -/
def Writer.passes (text : List Char) : (previous : Nat) → List Nat → Writer → Writer
  | _, [], writer => writer
  | previous, point :: rest, writer =>
    let widened :=
      { writer with delta := writer.delta + (point - previous) * (writer.handled + 1) }
    let writer := text.foldl (step point) widened
    passes text (point + 1) rest { writer with delta := writer.delta + 1 }

/-- A text in letters, digits and dashes of ASCII, if its own characters of ASCII are such. -/
def encode (text : List Char) : List Char :=
  let basic := text.filter fun character => character.toNat < 0x80
  let points := (text.filter fun character => 0x80 ≤ character.toNat).map Char.toNat
  let points := (points.mergeSort (· ≤ ·)).eraseDups
  let start := if basic.isEmpty then [] else basic ++ ['-']
  (Writer.passes text 0x80 points ⟨0, 72, basic.length, true, start⟩).written

/-! ### Reading -/

/-- The first number that a reader cannot hold. -/
def limit : Nat := 4294967296

/-- A number with the distance at the start of some digits added, and the digits that follow. -/
def advance? (bias position weight sum : Nat) : List Char → Option (Nat × List Char)
  | [] => none
  | character :: rest => do
    let digit ← digit? character
    let sum := sum + digit * weight
    let range := threshold position bias
    if limit ≤ sum then none
    else if digit < range then some (sum, rest)
    else if limit ≤ weight * (36 - range) then none
    else advance? bias (position + 36) (weight * (36 - range)) sum rest

/-- A distance has at least one digit. -/
theorem length_of_advance {bias : Nat} {digits : List Char} {position weight sum : Nat}
    {result : Nat × List Char} (found : advance? bias position weight sum digits = some result) :
    result.2.length < digits.length := by
  induction digits generalizing position weight sum with
  | nil => simp [advance?] at found
  | cons character rest shorter =>
    simp only [advance?, Option.bind_eq_bind, Option.bind_eq_some_iff] at found
    obtain ⟨digit, -, found⟩ := found
    split at found
    · cases found
    · split at found
      · cases found
        simp
      · split at found
        · cases found
        · have := shorter found
          simp only [List.length_cons]
          omega

/-- What a reader knows: the code point that it has come to, the place for the next character, the
bias, and the text so far. -/
structure Reader where
  point : Nat
  place : Nat
  bias : Nat
  text : List Char

/-- The reader after a distance to the number `sum`, unless no character has the code point that it
leads to. -/
def Reader.insert? (reader : Reader) (sum : Nat) : Option Reader :=
  let count := reader.text.length + 1
  let point := reader.point + sum / count
  let place := sum % count
  if point.isValidChar then
    some ⟨point, place + 1, adapt (sum - reader.place) count (reader.place == 0),
      reader.text.take place ++ Char.ofNat point :: reader.text.drop place⟩
  else
    none

/-- Reads distances up to the end of some digits. -/
def Reader.run? (reader : Reader) (digits : List Char) : Option (List Char) :=
  if digits.isEmpty then some reader.text
  else
    match _ : advance? reader.bias 36 1 reader.place digits with
    | none => none
    | some (sum, rest) => (reader.insert? sum).bind fun next => next.run? rest
  termination_by digits.length
  decreasing_by exact length_of_advance (by assumption)

/-- The text that a text stands for. What stands before the last dash are its characters within
ASCII. -/
def decode? (text : List Char) : Option (List Char) :=
  let digits := (text.reverse.takeWhile (· != '-')).reverse
  let basic := (text.reverse.dropWhile (· != '-')).tail.reverse
  if text.head? == some '-' && basic.isEmpty then none
  else Reader.run? ⟨0x80, 0, 72, basic⟩ digits

end CatalogSync.Url.Punycode
