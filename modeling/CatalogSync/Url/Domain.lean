/-
**Domain names.**

* `Domain.ascii?` — the form of a domain name within ASCII: capital letters are made small, labels
  outside of ASCII are written in Punycode. Names that could be taken for others, or that could not
  be read back, have no such form.
* `Domain.label?` — the same for a single label, with the text that it stands for.
* `Domain.isForbidden` — the characters that may not stand in a name.
-/

import CatalogSync.Text.Mark
import CatalogSync.Url.Domain.Composition
import CatalogSync.Url.Domain.Direction
import CatalogSync.Url.Domain.Joining
import CatalogSync.Url.Domain.Mapping
import CatalogSync.Url.Punycode

namespace CatalogSync.Url.Domain

/-- The characters of ASCII that may not stand in a name. -/
def isForbidden (character : Char) : Bool :=
  character.toNat ≤ 0x20 || character.toNat == 0x7F ||
    character ∈ ['%', '#', '/', ':', '<', '>', '?', '@', '[', '\\', ']', '^', '|']

/-- Whether all characters belong to ASCII. -/
def isAscii (text : List Char) : Bool := text.all fun character => character.toNat < 0x80

/-- What labels in Punycode start with. -/
def codeMark : List Char := ['x', 'n', '-', '-']

/-- The number of characters that a label in Punycode may have after its start. -/
def longestCode : Nat := 2000

/-- The number of characters that a label outside of ASCII may have. -/
def longestLabel : Nat := 1000

/-- Whether a label may stand for itself: it starts with no mark, and its joiners make a difference.
-/
def isSound (label : List Char) : Bool :=
  !(label.head?.any Text.isMark) && joinsFit label

/-- A label within ASCII and the text that it stands for. -/
structure Label where
  ascii : List Char
  text : List Char

/-- The label that stands for a text in Punycode, given what follows its start. The text has to be
one that would be written so. -/
def decoded? (code : List Char) : Option Label :=
  if !isAscii code || code.getLast?.all (· == '-') || longestCode < code.length then none
  else do
    let text ← Punycode.decode? code
    if text.all isKept && composed text == text && isSound text then
      some ⟨codeMark ++ code, text⟩
    else
      none

/-- The label of a text that is outside of ASCII. -/
def encoded? (text : List Char) : Option Label :=
  if isSound text && text.length ≤ longestLabel then
    some ⟨codeMark ++ Punycode.encode text, text⟩
  else
    none

/-- The label of a text whose characters have been mapped and composed. -/
def label? (text : List Char) : Option Label :=
  if codeMark.isPrefixOf text then decoded? (text.drop codeMark.length)
  else if isAscii text then some ⟨text, text⟩
  else encoded? text

/-- The form of a domain name within ASCII. -/
def ascii? (name : List Char) : Option (List Char) := do
  let mapped ← mapped? name
  let labels ← ((composed mapped).splitOn '.').mapM label?
  let texts := labels.map Label.text
  if texts.any fun text => text.any isForbidden then none
  else if texts.any turnsAround && !texts.all runsEvenly then none
  else some (['.'].intercalate (labels.map Label.ascii))

end CatalogSync.Url.Domain
