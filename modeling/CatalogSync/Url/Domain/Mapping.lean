/-
**What becomes of the characters of a domain name.**

* `image?` — the characters that take the place of a character: small letters for capital ones,
  plain forms for ornamental ones, nothing for characters without meaning, most characters for
  themselves. Some characters no name may have.
* `mapped?` — a name with every character replaced so.
* `isKept` — whether a character stands for itself.
-/

import CatalogSync.Text.Ranges
import CatalogSync.Url.Domain.Mapping.Table

namespace CatalogSync.Url.Domain

/-- What takes the place of a character above ASCII. -/
def foreignImage? (code : Nat) : Option (List Nat) :=
  match runs.find? (·.holds code) with
  | some run => some [run.imageOf code]
  | none =>
    match replacements.find? (·.head? == some code) with
    | some row => some row.tail
    | none =>
      if Text.within ignored code then some []
      else if Text.within refused code then none
      else some [code]

/-- What takes the place of a character, unless no name may have it. -/
def image? (character : Char) : Option (List Char) :=
  if character.toNat < 0x80 then some [character.toLower]
  else (foreignImage? character.toNat).map fun codes => codes.map Char.ofNat

/-- The name with every character replaced, unless it has one that no name may have. -/
def mapped? (name : List Char) : Option (List Char) :=
  (name.mapM image?).map List.flatten

/-- Whether a character stands for itself. -/
def isKept (character : Char) : Bool := image? character == some [character]

end CatalogSync.Url.Domain
