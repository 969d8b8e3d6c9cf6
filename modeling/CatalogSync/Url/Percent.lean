/-
**Percent signs in addresses.**

* `encode` — a text with some of its characters written as percent signs and two digits per byte.
* `decode?` — the text that such a text stands for.
* `formEncode`, `formDecode` — the form in which names and values of a query are written, and the
  text that such a form stands for.
-/

import CatalogSync.Text.Bytes
import CatalogSync.Text.Digits

namespace CatalogSync.Url.Percent

/-- The digits of a byte after a percent sign. -/
def byteText (byte : UInt8) : List Char :=
  let digit (value : Nat) : Char := (Nat.digitChar value).toUpper
  ['%', digit (byte.toNat / 16), digit (byte.toNat % 16)]

/-- The bytes of a character after percent signs. -/
def characterText (character : Char) : List Char :=
  character.toString.toUTF8.toList.flatMap byteText

/-- The text with the characters that pass a test written by their bytes. -/
def encode (test : Char → Bool) (characters : List Char) : List Char :=
  characters.flatMap fun character =>
    if test character then characterText character else [character]

/-- Whether a character is a control or lies outside of ASCII. -/
def isControl (character : Char) : Bool :=
  character.toNat < 0x20 || 0x7E < character.toNat

/-- The characters that a fragment writes by their bytes. -/
def inFragment (character : Char) : Bool :=
  isControl character || character ∈ [' ', '"', '<', '>', '\x60']

/-- The characters that a path writes by their bytes. -/
def inPath (character : Char) : Bool :=
  inFragment character || character ∈ ['#', '?', '\x7b', '\x7d']

/-- The characters that the account of an address writes by their bytes. -/
def inAccount (character : Char) : Bool :=
  inPath character || character ∈ ['/', ':', ';', '=', '@', '[', '\\', ']', '^', '|']

/-- The characters that a query writes by their bytes; a quote is one of them for web addresses. -/
def inQuery (isWeb : Bool) (character : Char) : Bool :=
  isControl character || character ∈ [' ', '"', '#', '<', '>'] || (isWeb && character == '\'')

/-- The bytes that a text stands for. A percent sign without two digits stands for itself. -/
def decodeBytes : List Char → List UInt8
  | '%' :: tens :: ones :: rest =>
    match Text.digit? 16 tens, Text.digit? 16 ones with
    | some high, some low => UInt8.ofNat (high * 16 + low) :: decodeBytes rest
    | _, _ => '%'.toUInt8 :: decodeBytes (tens :: ones :: rest)
  | character :: rest => character.toString.toUTF8.toList ++ decodeBytes rest
  | [] => []

/-- The text that a text stands for, if its bytes are well-formed. -/
def decode? (characters : List Char) : Option (List Char) :=
  (String.fromUTF8? (ByteArray.mk (decodeBytes characters).toArray)).map String.toList

/-- How a character of a form is written: letters and digits of ASCII and four marks as they are, a
space as a plus sign, everything else by its bytes. -/
def formCharacter (character : Char) : List Char :=
  if character.isAlphanum || character ∈ ['*', '-', '.', '_'] then [character]
  else if character = ' ' then ['+']
  else characterText character

/-- The form in which names and values of a query are written. -/
def formEncode (text : String) : String :=
  String.ofList (text.toList.flatMap formCharacter)

/-- The text that such a form stands for. Bytes that are no text are replaced. -/
def formDecode (characters : List Char) : String :=
  Text.Utf8.readLossy (decodeBytes (characters.map fun character =>
    if character = '+' then ' ' else character))

end CatalogSync.Url.Percent
