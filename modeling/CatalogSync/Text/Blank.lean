/-
**Blank characters and trimming.**

* `isBlank` — the Unicode property White_Space.
* `trim` — a text without the blanks at its two ends.
* `isAllBlank` — whether nothing is left of a text once it is trimmed.
-/

namespace CatalogSync.Text

/-- The characters with the Unicode property White_Space. -/
def isBlank (character : Char) : Bool :=
  let code := character.toNat
  (0x9 ≤ code && code ≤ 0xD) || code == 0x20 || code == 0x85 || code == 0xA0 || code == 0x1680 ||
    (0x2000 ≤ code && code ≤ 0x200A) || code == 0x2028 || code == 0x2029 || code == 0x202F ||
    code == 0x205F || code == 0x3000

/-- A list without the leading characters that satisfy a test and without the trailing ones. -/
def trimWhile (test : Char → Bool) (characters : List Char) : List Char :=
  ((characters.dropWhile test).reverse.dropWhile test).reverse

/-- The text without the blanks at its two ends. -/
def trim (text : String) : String :=
  String.ofList (trimWhile isBlank text.toList)

/-- Whether the text is empty or consists of blanks. -/
def isAllBlank (text : String) : Bool :=
  text.toList.all isBlank

end CatalogSync.Text
