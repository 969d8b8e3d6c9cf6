/-
**The tokens of written values.**

* `Token` — brackets, braces, separators, and the scalars that JSON text is made of.
* `Token.scan?` — the tokens of a text, if it has no character out of place.

The scanner is a machine that takes one character at a time; `Mode` is what it remembers.
-/

import CatalogSync.Value.Numeral

namespace CatalogSync.Value

/-- A lexical unit of a written value. -/
inductive Token where
  | openList
  | closeList
  | openObject
  | closeObject
  | colon
  | comma
  | scalar (value : Value)
  deriving BEq, Inhabited

namespace Token

/-- What the scanner remembers between two characters. Letters already read are held in reverse. -/
inductive Mode where
  /-- Outside of texts, names and numbers. -/
  | between
  /-- Within a number or a name such as `null`. -/
  | word (letters : List Char)
  /-- Within a text. -/
  | text (letters : List Char)
  /-- After a backslash. -/
  | escape (letters : List Char)
  /-- Within the four digits of a code unit, after the first half of a pair if there is one. -/
  | unit (letters : List Char) (half : Option Nat) (digits : List Char)
  /-- After the first half of a pair, where a backslash has to follow. -/
  | half (letters : List Char) (half : Nat)
  /-- After the backslash between the halves of a pair. -/
  | halfEscape (letters : List Char) (half : Nat)
  deriving Inhabited

/-- The blanks that may stand between tokens. -/
def isGap (character : Char) : Bool :=
  character == ' ' || character == '\t' || character == '\n' || character == '\r'

/-- The scalar of a number or a name. -/
def ofWord? (letters : List Char) : Option Value :=
  match String.ofList letters with
  | "null" => some .null
  | "true" => some (.flag true)
  | "false" => some (.flag false)
  | _ => (Numeral.read? letters).bind Numeral.value?

/-- Continues after a code unit: it is a character, or the first half of a pair, or it completes
one. -/
def afterUnit? (letters : List Char) (first : Option Nat) (unit : Nat) : Option Mode :=
  let isFirst := 0xD800 ≤ unit && unit < 0xDC00
  let isSecond := 0xDC00 ≤ unit && unit < 0xE000
  match first with
  | none =>
    if isFirst then some (.half letters unit)
    else if isSecond then none
    else some (.text (Char.ofNat unit :: letters))
  | some first =>
    if isSecond then
      some (.text (Char.ofNat (0x10000 + (first - 0xD800) * 0x400 + (unit - 0xDC00)) :: letters))
    else
      none

/-- The character that a one-letter escape stands for. -/
def escaped? (letter : Char) : Option Char :=
  match letter with
  | '"' => some '"'
  | '\\' => some '\\'
  | '/' => some '/'
  | 'b' => some '\x08'
  | 'f' => some '\x0c'
  | 'n' => some '\n'
  | 'r' => some '\r'
  | 't' => some '\t'
  | _ => none

/-- What the scanner does outside of texts and words. -/
def stepBetween? (character : Char) : Option (Mode × List Token) :=
  match character with
  | '[' => some (.between, [.openList])
  | ']' => some (.between, [.closeList])
  | '\x7b' => some (.between, [.openObject])
  | '\x7d' => some (.between, [.closeObject])
  | ':' => some (.between, [.colon])
  | ',' => some (.between, [.comma])
  | '"' => some (.text [], [])
  | _ =>
    if isGap character then some (.between, [])
    else if character.isAlphanum || character == '-' then some (.word [character], [])
    else none

/-- What the scanner does with one character: what it remembers then and the tokens that end. -/
def step? (mode : Mode) (character : Char) : Option (Mode × List Token) :=
  match mode with
  | .between => stepBetween? character
  | .word letters =>
    if character.isAlphanum || character == '-' || character == '+' || character == '.' then
      some (.word (character :: letters), [])
    else do
      let value ← ofWord? letters.reverse
      let (mode, tokens) ← stepBetween? character
      some (mode, .scalar value :: tokens)
  | .text letters =>
    match character with
    | '"' => some (.between, [.scalar (.text (String.ofList letters.reverse))])
    | '\\' => some (.escape letters, [])
    | _ => if character.toNat < 0x20 then none else some (.text (character :: letters), [])
  | .escape letters =>
    if character = 'u' then some (.unit letters none [], [])
    else (escaped? character).map fun meant => (.text (meant :: letters), [])
  | .unit letters first digits =>
    let digits := digits ++ [character]
    if digits.length < 4 then some (.unit letters first digits, [])
    else do
      let mode ← afterUnit? letters first (← Text.digits? 16 digits)
      some (mode, [])
  | .half letters first => if character = '\\' then some (.halfEscape letters first, []) else none
  | .halfEscape letters first =>
    if character = 'u' then some (.unit letters (some first) [], []) else none

/-- The tokens found so far, in reverse, and those of the characters that follow. -/
def scanFrom? (mode : Mode) (found : List Token) : List Char → Option (List Token)
  | [] =>
    match mode with
    | .between => some found.reverse
    | .word letters =>
      (ofWord? letters.reverse).map fun value => (.scalar value :: found).reverse
    | _ => none
  | character :: rest =>
    match step? mode character with
    | none => none
    | some (mode, tokens) => scanFrom? mode (tokens.reverse ++ found) rest

/-- The tokens of a text. -/
def scan? (text : String) : Option (List Token) :=
  scanFrom? .between [] text.toList

end Token

end CatalogSync.Value
