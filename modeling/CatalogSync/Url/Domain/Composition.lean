/-
**Composed text.**

* `composed` — a text in which every letter with its marks is written by as few characters as
  possible, and marks that do not touch each other stand in a fixed order.

This is Unicode's normal form C for the characters that domain names may have: those that are
written by others in every normal form are replaced before a name is composed. Hangul is composed by
arithmetic, everything else from a table.
-/

import CatalogSync.Text.Ranges
import CatalogSync.Url.Domain.Composition.Table

namespace CatalogSync.Url.Domain

/-! ### Parts -/

/-- The first consonant of Hangul. -/
def firstConsonant : Nat := 0x1100

/-- The first vowel of Hangul. -/
def firstVowel : Nat := 0x1161

/-- The code point before the first final consonant of Hangul. -/
def beforeFinals : Nat := 0x11A7

/-- The first syllable of Hangul. -/
def firstSyllable : Nat := 0xAC00

/-- Whether a code point is a syllable of Hangul. -/
def isSyllable (code : Nat) : Bool := Text.within [(firstSyllable, 0xD7A3)] code

/-- Consonant, vowel and, if there is one, final consonant of a syllable of Hangul. -/
def syllableParts (syllable : Nat) : List Nat :=
  let index := syllable - firstSyllable
  let start := [firstConsonant + index / 588, firstVowel + index % 588 / 28]
  if index % 28 = 0 then start else start ++ [beforeFinals + index % 28]

/-- A character by its parts. The first part may have parts itself; `depth` bounds how often. -/
def parts : (depth : Nat) → Nat → List Nat
  | 0, code => [code]
  | depth + 1, code =>
    if isSyllable code then syllableParts code
    else
      match composites.find? (·.head? == some code) with
      | some [_, first, second] => parts depth first ++ [second]
      | _ => [code]

/-- How often parts can have parts: no letter carries more marks in one character than three. -/
def partsDepth : Nat := 3

/-- The combining class of a character: zero for a character that starts a letter. -/
def combiningClass (code : Nat) : Nat :=
  match classes.find? fun row => Text.within [(row[0]?.getD 0, row[1]?.getD 0)] code with
  | some row => row[2]?.getD 0
  | none => 0

/-! ### Order -/

/-- A character with its combining class. -/
structure Classed where
  code : Nat
  order : Nat

/-- Puts a mark in front of others, past those of smaller classes. -/
def insertMark (mark : Classed) : List Classed → List Classed
  | [] => [mark]
  | next :: rest =>
    if next.order != 0 && next.order < mark.order then next :: insertMark mark rest
    else mark :: next :: rest

/-- Characters with the marks after each letter in ascending order of their classes. -/
def ordered (characters : List Classed) : List Classed :=
  characters.foldr insertMark []

/-! ### Composition -/

/-- The character that two characters are composed to. -/
def composite? (first second : Nat) : Option Nat :=
  if Text.within [(firstConsonant, firstConsonant + 18)] first &&
      Text.within [(firstVowel, firstVowel + 20)] second then
    some (firstSyllable + ((first - firstConsonant) * 21 + (second - firstVowel)) * 28)
  else if isSyllable first && (first - firstSyllable) % 28 == 0 &&
      Text.within [(beforeFinals + 1, beforeFinals + 27)] second then
    some (first + (second - beforeFinals))
  else
    (composites.find? fun row => row.tail == [first, second]).bind List.head?

/-- Composes a letter with what follows, given the marks since then that it was not composed with,
the last one first. A mark is out of reach behind one whose class is not smaller. -/
def composeFrom (letter : Nat) (skipped : List Classed) : List Classed → List Nat
  | [] => letter :: skipped.reverse.map Classed.code
  | next :: rest =>
    let isReached := skipped.head?.all fun last => last.order < next.order
    match (if isReached then composite? letter next.code else none) with
    | some composite => composeFrom composite skipped rest
    | none =>
      if next.order = 0 then
        letter :: skipped.reverse.map Classed.code ++ composeFrom next.code [] rest
      else
        composeFrom letter (next :: skipped) rest

/-- Composes every letter with its marks. -/
def compose : List Classed → List Nat
  | [] => []
  | first :: rest =>
    if first.order = 0 then composeFrom first.code [] rest else first.code :: compose rest

/-- The text with every letter composed with its marks. -/
def composed (text : List Char) : List Char :=
  if text.all fun character => character.toNat < 0x80 then text
  else
    let codes := text.flatMap fun character => parts partsDepth character.toNat
    (compose (ordered (codes.map fun code => ⟨code, combiningClass code⟩))).map Char.ofNat

end CatalogSync.Url.Domain
