/-
**Text that is written as bytes is read back.**

* `toUTF8_toList` — the bytes of a text are those of its characters, one after the other.
* `chunks_character` — the bytes of a character are read back as that character, whatever follows
  them; one lemma for each number of bytes.
* **`readLossy_flatMap`** — so the bytes of characters are read back as these characters.
-/

import CatalogSync.Text.Bytes

namespace CatalogSync.Text

/-! ### The bytes of a text -/

/-- The bytes of an array are collected in their order. -/
theorem toList_loop (bytes : ByteArray) (position : Nat) (before : List UInt8) :
    ByteArray.toList.loop bytes position before =
      before.reverse ++ bytes.data.toList.drop position := by
  fun_induction ByteArray.toList.loop bytes position before with
  | case1 position before inside ih =>
    have there : position < bytes.data.toList.length := by simpa using inside
    have found : bytes.get! position = bytes.data.toList[position] := by
      cases bytes
      exact getElem!_pos _ position inside
    rw [ih, List.drop_eq_getElem_cons there, found, List.reverse_cons, List.append_assoc]
    rfl
  | case2 position before outside =>
    rw [List.drop_eq_nil_of_le (by simpa using Nat.le_of_not_lt outside), List.append_nil]

/-- The bytes of a text are those of its characters, one after the other. -/
theorem toUTF8_toList (text : String) :
    text.toUTF8.toList = text.toList.flatMap String.utf8EncodeChar := by
  rw [String.toUTF8_eq_toByteArray, ← String.utf8Encode_toList, ByteArray.toList, toList_loop]
  exact List.toList_data_toByteArray

namespace Utf8

/-! ### The bytes of a character -/

theorem toNat_byte {number : Nat} (small : number < 256) : (UInt8.ofNat number).toNat = number := by
  rw [UInt8.toNat_ofNat']
  exact Nat.mod_eq_of_lt small

/-- A byte in its range continues a character. -/
theorem continued_cons {low high number : Nat} (above : low ≤ number) (below : number ≤ high)
    (small : high < 256) (length code : Nat) (ranges : List (Nat × Nat)) (rest : List UInt8) :
    continued length code ((low, high) :: ranges) (UInt8.ofNat number :: rest) =
      continued (length + 1) (code * 64 + (number - 0x80)) ranges rest := by
  have same : (UInt8.ofNat number).toNat = number := toNat_byte (by omega)
  have inside : within [(low, high)] number = true := by simp [within, above, below]
  rw [continued, same, if_pos inside]

/-- The code points of characters: all numbers below a limit but for a gap. -/
theorem code_valid (character : Char) :
    character.val.toNat < 0xD800 ∨
      0xDFFF < character.val.toNat ∧ character.val.toNat < 0x110000 :=
  character.valid

section Character

variable {code : Nat} (rest : List UInt8)

theorem chunk_one (small : code ≤ 0x7F) :
    chunk (UInt8.ofNat code) rest = (.character (Char.ofNat code), rest) := by
  unfold chunk start?
  rw [toNat_byte (by omega), if_pos (by omega)]
  rfl

theorem chunk_two (large : 0x7F < code) (small : code ≤ 0x7FF) :
    chunk (UInt8.ofNat (code / 64 % 32 + 0xC0)) (UInt8.ofNat (code % 64 + 0x80) :: rest) =
      (.character (Char.ofNat code), rest) := by
  unfold chunk start?
  rw [toNat_byte (by omega), if_neg (by omega), if_neg (by omega), if_pos (by omega)]
  simp only
  rw [continued_cons (by omega) (by omega) (by omega), continued]
  have whole : (code / 64 % 32 + 0xC0 - 0xC0) * 64 + (code % 64 + 0x80 - 0x80) = code := by omega
  rw [whole]

theorem chunk_three (large : 0x7FF < code) (small : code ≤ 0xFFFF)
    (valid : code < 0xD800 ∨ 0xDFFF < code) :
    chunk (UInt8.ofNat (code / 4096 % 16 + 0xE0))
        (UInt8.ofNat (code / 64 % 64 + 0x80) :: UInt8.ofNat (code % 64 + 0x80) :: rest) =
      (.character (Char.ofNat code), rest) := by
  have first : code / 4096 % 16 + 0xE0 = code / 4096 + 0xE0 := by omega
  unfold chunk start?
  rw [first, toNat_byte (by omega), if_neg (by omega), if_neg (by omega), if_neg (by omega)]
  -- the second byte has a range of its own after the least first byte and after that of the gap
  by_cases least : code / 4096 = 0
  · rw [if_pos (by omega)]
    simp only
    rw [continued_cons (by omega) (by omega) (by omega),
      continued_cons (by omega) (by omega) (by omega), continued]
    have whole : (0 * 64 + (code / 64 % 64 + 0x80 - 0x80)) * 64 + (code % 64 + 0x80 - 0x80) =
        code := by omega
    rw [whole]
  · rw [if_neg (by omega)]
    by_cases gap : code / 4096 = 13
    · rw [if_pos (by omega)]
      simp only
      rw [continued_cons (by omega) (by omega) (by omega),
        continued_cons (by omega) (by omega) (by omega), continued]
      have whole : (13 * 64 + (code / 64 % 64 + 0x80 - 0x80)) * 64 + (code % 64 + 0x80 - 0x80) =
          code := by omega
      rw [whole]
    · rw [if_neg (by omega), if_pos (by omega)]
      simp only
      rw [continued_cons (by omega) (by omega) (by omega),
        continued_cons (by omega) (by omega) (by omega), continued]
      have whole : ((code / 4096 + 0xE0 - 0xE0) * 64 + (code / 64 % 64 + 0x80 - 0x80)) * 64 +
          (code % 64 + 0x80 - 0x80) = code := by omega
      rw [whole]

theorem chunk_four (large : 0xFFFF < code) (small : code < 0x110000) :
    chunk (UInt8.ofNat (code / 262144 % 8 + 0xF0))
        (UInt8.ofNat (code / 4096 % 64 + 0x80) :: UInt8.ofNat (code / 64 % 64 + 0x80) ::
          UInt8.ofNat (code % 64 + 0x80) :: rest) =
      (.character (Char.ofNat code), rest) := by
  have first : code / 262144 % 8 + 0xF0 = code / 262144 + 0xF0 := by omega
  unfold chunk start?
  rw [first, toNat_byte (by omega), if_neg (by omega), if_neg (by omega), if_neg (by omega),
    if_neg (by omega), if_neg (by omega), if_neg (by omega)]
  -- the second byte has a range of its own after the least first byte and after the greatest
  by_cases least : code / 262144 = 0
  · rw [if_pos (by omega)]
    simp only
    rw [continued_cons (by omega) (by omega) (by omega),
      continued_cons (by omega) (by omega) (by omega),
      continued_cons (by omega) (by omega) (by omega), continued]
    have whole : ((0 * 64 + (code / 4096 % 64 + 0x80 - 0x80)) * 64 +
        (code / 64 % 64 + 0x80 - 0x80)) * 64 + (code % 64 + 0x80 - 0x80) = code := by omega
    rw [whole]
  · rw [if_neg (by omega)]
    by_cases below : code / 262144 < 4
    · rw [if_pos (by omega)]
      simp only
      rw [continued_cons (by omega) (by omega) (by omega),
        continued_cons (by omega) (by omega) (by omega),
        continued_cons (by omega) (by omega) (by omega), continued]
      have whole : (((code / 262144 + 0xF0 - 0xF0) * 64 + (code / 4096 % 64 + 0x80 - 0x80)) * 64 +
          (code / 64 % 64 + 0x80 - 0x80)) * 64 + (code % 64 + 0x80 - 0x80) = code := by omega
      rw [whole]
    · rw [if_neg (by omega), if_pos (by omega)]
      simp only
      rw [continued_cons (by omega) (by omega) (by omega),
        continued_cons (by omega) (by omega) (by omega),
        continued_cons (by omega) (by omega) (by omega), continued]
      have whole : ((4 * 64 + (code / 4096 % 64 + 0x80 - 0x80)) * 64 +
          (code / 64 % 64 + 0x80 - 0x80)) * 64 + (code % 64 + 0x80 - 0x80) = code := by omega
      rw [whole]

end Character

/-- **The bytes of a character are read back as that character, whatever follows them.** -/
theorem chunks_character (character : Char) (rest : List UInt8) :
    chunks (String.utf8EncodeChar character ++ rest) = .character character :: chunks rest := by
  have valid := code_valid character
  have whole : Char.ofNat character.val.toNat = character := Char.ofNat_toNat character
  have read {first : UInt8} {others : List UInt8}
      (chunked : chunk first others = (.character (Char.ofNat character.val.toNat), rest)) :
      chunks (first :: others) = .character character :: chunks rest := by
    rw [chunks, chunked, whole]
  unfold String.utf8EncodeChar
  simp only
  by_cases one : character.val.toNat ≤ 0x7F
  · rw [if_pos one]
    exact read (chunk_one rest one)
  rw [if_neg one]
  by_cases two : character.val.toNat ≤ 0x7FF
  · rw [if_pos two]
    exact read (chunk_two rest (by omega) two)
  rw [if_neg two]
  by_cases three : character.val.toNat ≤ 0xFFFF
  · rw [if_pos three]
    exact read (chunk_three rest (by omega) three (by omega))
  rw [if_neg three]
  exact read (chunk_four rest (by omega) (by omega))

/-! ### Reading -/

theorem chunks_flatMap (characters : List Char) :
    chunks (characters.flatMap String.utf8EncodeChar) = characters.map .character := by
  induction characters with
  | nil => rw [List.flatMap_nil, chunks, List.map_nil]
  | cons character rest ih => rw [List.flatMap_cons, chunks_character, ih, List.map_cons]

/-- **The bytes of characters are read back as these characters.** -/
theorem readLossy_flatMap (characters : List Char) :
    readLossy (characters.flatMap String.utf8EncodeChar) = String.ofList characters := by
  unfold readLossy
  rw [chunks_flatMap, List.map_map]
  exact congrArg String.ofList (List.map_id characters)

end Utf8

end CatalogSync.Text
