/-
**The written form of values.**

* `Value.compact` — a value as JSON text on one line, without blanks.
* `Value.pretty` — the same over several lines, two spaces to a level; an empty list or object
  stays on one line.

A quote, a backslash and the control characters of a text are escaped, those with a short form by
it; every other character stands for itself.
-/

import CatalogSync.Value

namespace CatalogSync

namespace Value

/-- A control character by number, with four hexadecimal digits. -/
def controlEscape (code : Nat) : String :=
  let digits := Nat.toDigits 16 code
  "\\u" ++ String.ofList (List.replicate (4 - digits.length) '0' ++ digits)

/-- How one character of a text is written. -/
def escapeCharacter (character : Char) : String :=
  match character with
  | '"' => "\\\""
  | '\\' => "\\\\"
  | '\x08' => "\\b"
  | '\t' => "\\t"
  | '\n' => "\\n"
  | '\x0c' => "\\f"
  | '\r' => "\\r"
  | _ => if character.toNat < 0x20 then controlEscape character.toNat else character.toString

/-- A text between quotes. -/
def writeText (text : String) : String :=
  "\"" ++ String.join (text.toList.map escapeCharacter) ++ "\""

mutual

/-- The value on one line. -/
def compact : Value → String
  | .null => "null"
  | .flag true => "true"
  | .flag false => "false"
  | .number value => toString value
  | .float value => value.text
  | .text value => writeText value
  | .list items => "[" ++ ",".intercalate (compactItems items) ++ "]"
  | .object fields => "\x7b" ++ ",".intercalate (compactFields fields) ++ "\x7d"

/-- Every value of a list on one line. -/
def compactItems : List Value → List String
  | [] => []
  | item :: rest => compact item :: compactItems rest

/-- Every field on one line: its name, a colon and its value. -/
def compactFields : List (String × Value) → List String
  | [] => []
  | (name, value) :: rest => (writeText name ++ ":" ++ compact value) :: compactFields rest

end

/-- Puts entries on lines of their own between two brackets. -/
def block (opening closing indent : String) (entries : List String) : String :=
  if entries.isEmpty then opening ++ closing
  else
    let inner := "\n" ++ indent ++ "  "
    opening ++ inner ++ ("," ++ inner).intercalate entries ++ "\n" ++ indent ++ closing

mutual

/-- The value over several lines, at a given indentation. -/
def prettyAt (indent : String) : Value → String
  | .list items => block "[" "]" indent (prettyItems (indent ++ "  ") items)
  | .object fields => block "\x7b" "\x7d" indent (prettyFields (indent ++ "  ") fields)
  | .null => compact .null
  | .flag value => compact (.flag value)
  | .number value => compact (.number value)
  | .float value => compact (.float value)
  | .text value => compact (.text value)

/-- Every value of a list over several lines. -/
def prettyItems (indent : String) : List Value → List String
  | [] => []
  | item :: rest => prettyAt indent item :: prettyItems indent rest

/-- Every field over several lines: its name, a colon, a space and its value. -/
def prettyFields (indent : String) : List (String × Value) → List String
  | [] => []
  | (name, value) :: rest =>
    (writeText name ++ ": " ++ prettyAt indent value) :: prettyFields indent rest

end

/-- The value over several lines. -/
def pretty (value : Value) : String := prettyAt "" value

end Value

end CatalogSync
