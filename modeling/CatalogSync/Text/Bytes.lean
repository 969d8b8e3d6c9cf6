/-
**Bytes and text.**

* `Utf8.chunks` — bytes cut into characters and into pieces that are no characters. Such a piece is
  as long as it could still have become one.
* `Utf8.read` — the text of bytes, or the first flaw in them.
* `Utf8.readLossy` — the text of bytes, with the replacement character for every flaw.
* `Flaw.message` — the complaint about a flaw.
* `base64` — the bytes of a text as letters, digits and two marks, four for three bytes, filled up
  with equals signs.
-/

import CatalogSync.Text.Ranges

namespace CatalogSync.Text

/-! ### Bytes as text -/

/-- A place where bytes are no text. -/
structure Flaw where
  /-- The number of bytes before it. -/
  position : Nat
  /-- The number of bytes that are wrong there; none if the last character is not finished. -/
  length : Option Nat
  deriving DecidableEq, Repr

/-- The complaint about a flaw. -/
def Flaw.message (flaw : Flaw) : String :=
  match flaw.length with
  | some length =>
    "invalid utf-8 sequence of " ++ toString length ++ " bytes from index " ++
      toString flaw.position
  | none => "incomplete utf-8 byte sequence from index " ++ toString flaw.position

namespace Utf8

/-- A piece of some bytes. -/
inductive Chunk where
  | character (character : Char)
  | broken (length : Nat)
  | unfinished
  deriving DecidableEq, Repr

/-- What the first byte of a character contributes to its code point, and the ranges of the bytes
that have to follow; none if no character starts with the byte. -/
def start? (byte : Nat) : Option (Nat × List (Nat × Nat)) :=
  let any := (0x80, 0xBF)
  if byte < 0x80 then some (byte, [])
  else if byte < 0xC2 then none
  else if byte < 0xE0 then some (byte - 0xC0, [any])
  else if byte = 0xE0 then some (0, [(0xA0, 0xBF), any])
  else if byte = 0xED then some (13, [(0x80, 0x9F), any])
  else if byte < 0xF0 then some (byte - 0xE0, [any, any])
  else if byte = 0xF0 then some (0, [(0x90, 0xBF), any, any])
  else if byte < 0xF4 then some (byte - 0xF0, [any, any, any])
  else if byte = 0xF4 then some (4, [(0x80, 0x8F), any, any])
  else none

/-- The piece that continues a character of which some bytes have been read, and the bytes after
it. -/
def continued (length code : Nat) : List (Nat × Nat) → List UInt8 → Chunk × List UInt8
  | [], bytes => (.character (Char.ofNat code), bytes)
  | _ :: _, [] => (.unfinished, [])
  | range :: ranges, byte :: rest =>
    if within [range] byte.toNat then
      continued (length + 1) (code * 64 + (byte.toNat - 0x80)) ranges rest
    else
      (.broken length, byte :: rest)

/-- What follows a piece is no longer than what it is the start of. -/
theorem length_continued (length code : Nat) (ranges : List (Nat × Nat)) (bytes : List UInt8) :
    (continued length code ranges bytes).2.length ≤ bytes.length := by
  induction ranges generalizing length code bytes with
  | nil => simp [continued]
  | cons range ranges shorter =>
    cases bytes with
    | nil => simp [continued]
    | cons byte rest =>
      simp only [continued]
      split
      · exact Nat.le_succ_of_le (shorter _ _ rest)
      · simp

/-- The first piece of some bytes, given the first of them, and the bytes after it. -/
def chunk (byte : UInt8) (rest : List UInt8) : Chunk × List UInt8 :=
  match start? byte.toNat with
  | some (code, ranges) => continued 1 code ranges rest
  | none => (.broken 1, rest)

/-- What follows the first piece is shorter than all. -/
theorem length_chunk (byte : UInt8) (rest : List UInt8) :
    (chunk byte rest).2.length ≤ rest.length := by
  unfold chunk
  split
  · exact length_continued _ _ _ _
  · simp

/-- The pieces of some bytes. -/
def chunks : List UInt8 → List Chunk
  | [] => []
  | byte :: rest => (chunk byte rest).1 :: chunks (chunk byte rest).2
  termination_by bytes => bytes.length
  decreasing_by exact Nat.lt_succ_of_le (length_chunk byte rest)

/-- The characters of pieces from a position on, or the first flaw. -/
def charactersFrom (position : Nat) : List Chunk → Except Flaw (List Char)
  | [] => .ok []
  | .broken length :: _ => .error ⟨position, some length⟩
  | .unfinished :: _ => .error ⟨position, none⟩
  | .character character :: rest => do
    let others ← charactersFrom (position + character.utf8Size) rest
    pure (character :: others)

/-- The text of some bytes, or the first flaw in them. -/
def read (bytes : List UInt8) : Except Flaw String :=
  (charactersFrom 0 (chunks bytes)).map String.ofList

/-- The text of some bytes, with the replacement character for every flaw. -/
def readLossy (bytes : List UInt8) : String :=
  String.ofList ((chunks bytes).map fun
    | .character character => character
    | .broken _ | .unfinished => '\uFFFD')

end Utf8

/-! ### Base 64 -/

/-- The letter for a number below 64. -/
def base64Letter (value : Nat) : Char :=
  if value < 26 then Char.ofNat ('A'.toNat + value)
  else if value < 52 then Char.ofNat ('a'.toNat + (value - 26))
  else if value < 62 then Char.ofNat ('0'.toNat + (value - 52))
  else if value = 62 then '+'
  else '/'

/-- The letters for bytes. -/
def base64Letters : List UInt8 → List Char
  | [] => []
  | [first] =>
    let value := first.toNat * 16
    [base64Letter (value / 64), base64Letter (value % 64), '=', '=']
  | [first, second] =>
    let value := (first.toNat * 256 + second.toNat) * 4
    [base64Letter (value / 4096), base64Letter (value / 64 % 64), base64Letter (value % 64), '=']
  | first :: second :: third :: rest =>
    let value := (first.toNat * 256 + second.toNat) * 256 + third.toNat
    base64Letter (value / 262144) :: base64Letter (value / 4096 % 64) ::
      base64Letter (value / 64 % 64) :: base64Letter (value % 64) :: base64Letters rest

/-- The letters for the bytes of a text. -/
def base64 (text : String) : String :=
  String.ofList (base64Letters text.toUTF8.toList)

end CatalogSync.Text
