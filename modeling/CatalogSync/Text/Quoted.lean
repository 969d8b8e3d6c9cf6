/-
**Text in quotes, with everything unprintable escaped.**

* `quoted` — a text between double quotes. A quote, a backslash, a tab, a line feed, a carriage
  return and the null character have two-character escapes; every other character without a
  visible form is written by number.
* `quotedOption` — the same for a text that may be absent.

Log events and error reports show texts in this form, so that an empty text, a trailing blank or a
control character can be seen.
-/

import CatalogSync.Text.Quoted.Table
import CatalogSync.Text.Ranges

namespace CatalogSync.Text

namespace Quoted

/-- Whether a character has no visible form of its own. -/
def isHidden (character : Char) : Bool :=
  let code := character.toNat
  if code < 0x80 then code < 0x20 || code == 0x7F
  else within hiddenRanges code

/-- The code point of a character in small hexadecimal digits. -/
def hexadecimal (code : Nat) : List Char :=
  Nat.toDigits 16 code

/-- How one character stands between the quotes. -/
def escape (character : Char) : List Char :=
  match character with
  | '"' => ['\\', '"']
  | '\\' => ['\\', '\\']
  | '\t' => ['\\', 't']
  | '\n' => ['\\', 'n']
  | '\r' => ['\\', 'r']
  | '\x00' => ['\\', '0']
  | _ =>
    if isHidden character then
      ['\\', 'u', '\x7b'] ++ hexadecimal character.toNat ++ ['\x7d']
    else
      [character]

end Quoted

/-- A text between double quotes, with everything unprintable escaped. -/
def quoted (text : String) : String :=
  String.ofList (['"'] ++ text.toList.flatMap Quoted.escape ++ ['"'])

/-- A text that may be absent, in quotes where it is there. -/
def quotedOption : Option String → String
  | none => "None"
  | some text => "Some(" ++ quoted text ++ ")"

end CatalogSync.Text
