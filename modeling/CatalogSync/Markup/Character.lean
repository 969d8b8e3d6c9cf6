/-
**The characters of marked-up text.**

* `isSpace`, `isAllowed` — the blanks of markup, and the characters that may stand in a document.
* `isNameStart`, `isNamePart` — the characters that names start with and go on with, colons apart.
* `expandText`, `expandAttribute` — text and attribute values with their references resolved. Only
  numbers and the five predefined names can be referred to; in an attribute value a tab or a line
  end counts as a space.
-/

import CatalogSync.Text.Digits
import CatalogSync.Text.Ranges

namespace CatalogSync.Markup

/-- The blanks of markup. -/
def isSpace (character : Char) : Bool :=
  character == ' ' || character == '\t' || character == '\n' || character == '\r'

/-- The characters that may stand in a document. -/
def isAllowed (character : Char) : Bool :=
  let code := character.toNat
  if code < 0x20 then isSpace character else code != 0xFFFE && code != 0xFFFF

/-- The letters above ASCII that may stand anywhere in a name. -/
def nameStartRanges : List (Nat × Nat) := [
  (0xC0, 0xD6), (0xD8, 0xF6), (0xF8, 0x2FF), (0x370, 0x37D), (0x37F, 0x1FFF), (0x200C, 0x200D),
  (0x2070, 0x218F), (0x2C00, 0x2FEF), (0x3001, 0xD7FF), (0xF900, 0xFDCF), (0xFDF0, 0xFFFD),
  (0x10000, 0xEFFFF)]

/-- The characters above ASCII that may stand in a name, but not at its start. -/
def namePartRanges : List (Nat × Nat) := [(0xB7, 0xB7), (0x300, 0x36F), (0x203F, 0x2040)]

/-- The characters that names start with, a colon apart. -/
def isNameStart (character : Char) : Bool :=
  character.isAlpha || character == '_' || Text.within nameStartRanges character.toNat

/-- The characters that names go on with, a colon apart. -/
def isNamePart (character : Char) : Bool :=
  isNameStart character || character.isDigit || character == '-' || character == '.' ||
    Text.within namePartRanges character.toNat

/-! ### References -/

/-- The number that one or more digits write. -/
def number? (base : Nat) (digits : List Char) : Option Nat :=
  if digits.isEmpty then none else Text.digits? base digits

/-- The character with a number. A number that belongs to no character stands for the replacement
character; it has at most 32 bits, and it may not stand for a forbidden character. -/
def numbered? (number : Nat) : Option Char :=
  if number < 4294967296 then
    let character := if number.isValidChar then Char.ofNat number else '\uFFFD'
    if isAllowed character then some character else none
  else
    none

/-- The character that a reference means, given without its delimiters. -/
def referred? (reference : List Char) : Option Char :=
  match reference with
  | '#' :: 'x' :: digits => (number? 16 digits).bind numbered?
  | '#' :: digits => (number? 10 digits).bind numbered?
  | _ =>
    match String.ofList reference with
    | "quot" => some '"'
    | "amp" => some '&'
    | "apos" => some '\''
    | "lt" => some '<'
    | "gt" => some '>'
    | _ => none

/-- Whether a character ends a reference. -/
def endsReference (character : Char) : Bool := character == ';'

/-- What follows the first reference of a text, given the text after the ampersand. -/
def afterReference? (text : List Char) : Option (List Char) :=
  match text.dropWhile fun character => !endsReference character with
  | [] => none
  | _ :: rest => some rest

/-- What follows a reference is shorter than what it is part of. -/
theorem length_afterReference {text rest : List Char} (found : afterReference? text = some rest) :
    rest.length < text.length := by
  unfold afterReference? at found
  split at found
  · simp at found
  · rename_i stop tail shape
    have shorter : (text.dropWhile fun character => !endsReference character).length ≤
        text.length :=
      (List.dropWhile_suffix fun character => !endsReference character).length_le
    simp only [Option.some.injEq] at found
    rw [shape] at shorter
    simp only [List.length_cons] at shorter
    subst found
    omega

/-- How a character of an attribute value counts, given the one after it; the first half of a
two-character line end does not count at all. -/
def attributeCharacter (character : Char) (next : Option Char) : List Char :=
  if character = '\r' ∧ next = some '\n' then []
  else if character = '\t' ∨ character = '\n' ∨ character = '\r' then [' ']
  else [character]

/-- A text with its references resolved, every other character being treated by `plain`. -/
def expandWith (plain : Char → Option Char → List Char) : List Char → Option (List Char)
  | [] => some []
  | '&' :: text =>
    match _found : afterReference? text with
    | none => none
    | some rest => do
      let character ← referred? (text.takeWhile fun character => !endsReference character)
      let expanded ← expandWith plain rest
      some (character :: expanded)
  | character :: text => (expandWith plain text).map (plain character text.head? ++ ·)
  termination_by text => text.length
  decreasing_by
    · have shorter := length_afterReference _found
      simp only [List.length_cons]
      omega
    · simp

/-- A text with its references resolved. -/
def expandText (text : List Char) : Option (List Char) :=
  expandWith (fun character _ => [character]) text

/-- An attribute value with its references resolved and its blanks made spaces. -/
def expandAttribute (text : List Char) : Option (List Char) :=
  expandWith attributeCharacter text

end CatalogSync.Markup
