/-
**Small letters.**

* `lowerCharacter` — the small form of one character, wherever it stands.
* `lowerCharacters`, `lowercase` — the small form of a text. A capital sigma that ends a word takes
  its final form: a letter stands before it and none after it, the characters that do not count
  for case being skipped on both sides.
-/

import CatalogSync.Text.Lowercase.Table

namespace CatalogSync.Text

namespace Lowercase

/-- Whether the character is a letter with case. -/
def isCased (character : Char) : Bool :=
  within casedRanges character.toNat

/-- Whether the character is skipped when the end of a word is looked for. -/
def isIgnorable (character : Char) : Bool :=
  within ignorableRanges character.toNat

/-- Whether the first character that counts for case is a letter with case. -/
def meetsLetter (characters : List Char) : Bool :=
  match characters.dropWhile isIgnorable with
  | [] => false
  | character :: _ => isCased character

end Lowercase

open Lowercase

/-- The small form of one character. The dotted capital I is the only one that needs two
characters. -/
def lowerCharacter (character : Char) : List Char :=
  if character = 'İ' then
    ['i', '\u0307']
  else
    match runs.find? (·.holds character.toNat) with
    | some run => [Char.ofNat (run.imageOf character.toNat)]
    | none => [character]

/-- The small form of what follows, given the characters before it with the nearest one first. -/
def lowerAfter (before : List Char) : List Char → List Char
  | [] => []
  | 'Σ' :: rest =>
    (if meetsLetter before && !meetsLetter rest then 'ς' else 'σ') ::
      lowerAfter ('Σ' :: before) rest
  | character :: rest => lowerCharacter character ++ lowerAfter (character :: before) rest

/-- The small form of a list of characters. -/
def lowerCharacters (characters : List Char) : List Char :=
  lowerAfter [] characters

/-- The small form of a text. -/
def lowercase (text : String) : String :=
  String.ofList (lowerCharacters text.toList)

end CatalogSync.Text
