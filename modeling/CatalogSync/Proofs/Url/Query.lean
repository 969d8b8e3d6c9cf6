/-
**Queries of addresses are read back.**

* `formDecode_formEncode` — a text in the form in which queries write it is read back as that text.
* `separator_notMem_formEncode` — this form holds neither of the two marks that separate names and
  values.
* **`pairs_withPairs`** — so names and values that were added to an address are read back from it,
  after those that it had already.
-/

import CatalogSync.Proofs.Text.Bytes
import CatalogSync.Url.Address
import Mathlib.Data.List.TakeDrop

namespace CatalogSync.Url

namespace Percent

/-! ### Bytes after percent signs -/

/-- The digit for a value below sixteen. -/
def upperDigit (value : Nat) : Char := (Nat.digitChar value).toUpper

theorem digit?_upperDigit : ∀ value < 16, Text.digit? 16 (upperDigit value) = some value := by
  decide

/-- The marks that mean something in a form: the one for a space, and the two separators. -/
def formMarks : List Char := ['+', '&', '=']

theorem upperDigit_notMem : ∀ value < 16, upperDigit value ∉ formMarks := by
  decide

theorem byteText_eq (byte : UInt8) :
    byteText byte = ['%', upperDigit (byte.toNat / 16), upperDigit (byte.toNat % 16)] := rfl

/-- A byte is read back, whatever follows it. -/
theorem decodeBytes_byteText (byte : UInt8) (rest : List Char) :
    decodeBytes (byteText byte ++ rest) = byte :: decodeBytes rest := by
  have small : byte.toNat < 256 := byte.toNat_lt_size
  have high := digit?_upperDigit (byte.toNat / 16) (by omega)
  have low := digit?_upperDigit (byte.toNat % 16) (by omega)
  have whole : byte.toNat / 16 * 16 + byte.toNat % 16 = byte.toNat := by omega
  rw [byteText_eq, List.cons_append, List.cons_append, List.singleton_append, decodeBytes, high,
    low]
  simp only [whole, UInt8.ofNat_toNat]

/-- A character other than the percent sign stands for itself. -/
theorem decodeBytes_cons {character : Char} (plain : character ≠ '%') (rest : List Char) :
    decodeBytes (character :: rest) =
      String.utf8EncodeChar character ++ decodeBytes rest := by
  have own : character.toString.toUTF8.toList = String.utf8EncodeChar character := by
    rw [Text.toUTF8_toList]
    simp
  rw [← own, decodeBytes]
  exact fun tens ones others same => absurd same plain

/-! ### The form of a text -/

/-- The characters of a form with its spaces in place. -/
def spaced (characters : List Char) : List Char :=
  characters.map fun character => if character = '+' then ' ' else character

theorem spaced_of_notMem {characters : List Char} (without : '+' ∉ characters) :
    spaced characters = characters := by
  have each : ∀ character ∈ characters, (if character = '+' then ' ' else character) =
      id character := by
    intro character member
    rw [if_neg (by rintro rfl; exact without member), id]
  unfold spaced
  rw [List.map_congr_left each, List.map_id]

theorem byteText_notMem {mark : Char} (isMark : mark ∈ formMarks) (byte : UInt8) :
    mark ∉ byteText byte := by
  have small : byte.toNat < 256 := byte.toNat_lt_size
  have high := upperDigit_notMem (byte.toNat / 16) (by omega)
  have low := upperDigit_notMem (byte.toNat % 16) (by omega)
  rw [byteText_eq]
  intro member
  rcases List.mem_cons.mp member with percent | digits
  · rw [percent] at isMark
    exact absurd isMark (by decide)
  rcases List.mem_cons.mp digits with first | second
  · exact high (first ▸ isMark)
  · exact low (List.mem_singleton.mp second ▸ isMark)

theorem characterText_notMem {mark : Char} (isMark : mark ∈ formMarks) (character : Char) :
    mark ∉ characterText character := by
  intro member
  obtain ⟨byte, -, inside⟩ := List.mem_flatMap.mp member
  exact byteText_notMem isMark byte inside

/-- A character that a form keeps is none of its marks, and no percent sign. -/
theorem kept_ne {character : Char}
    (kept : character.isAlphanum = true ∨ character ∈ ['*', '-', '.', '_']) :
    character ∉ formMarks ∧ character ≠ '%' := by
  rcases kept with letter | mark
  · constructor
    · intro member
      have each : formMarks.all (fun mark => !mark.isAlphanum) = true := by decide
      have symbol := List.all_eq_true.mp each character member
      rw [letter] at symbol
      cases symbol
    · rintro rfl
      exact absurd letter (by decide)
  · have each : ['*', '-', '.', '_'].all (fun mark =>
        decide (mark ∉ formMarks ∧ mark ≠ '%')) = true := by decide
    exact of_decide_eq_true (List.all_eq_true.mp each character mark)

/-- A character is read back by its bytes, whatever follows it. -/
theorem decodeBytes_formCharacter (character : Char) (rest : List Char) :
    decodeBytes (spaced (formCharacter character) ++ rest) =
      String.utf8EncodeChar character ++ decodeBytes rest := by
  unfold formCharacter
  by_cases kept : (character.isAlphanum || character ∈ ['*', '-', '.', '_']) = true
  · obtain ⟨apart, plain⟩ := kept_ne (by simpa using kept)
    have stays : '+' ∉ [character] := by
      rw [List.mem_singleton]
      rintro rfl
      exact apart (by decide)
    rw [if_pos kept, spaced_of_notMem stays, List.singleton_append, decodeBytes_cons plain]
  rw [if_neg kept]
  by_cases space : character = ' '
  · rw [if_pos space, space]
    exact decodeBytes_cons (by decide) rest
  · rw [if_neg space, spaced_of_notMem (characterText_notMem (by decide) character)]
    have read (bytes : List UInt8) :
        decodeBytes (bytes.flatMap byteText ++ rest) = bytes ++ decodeBytes rest := by
      induction bytes with
      | nil => rfl
      | cons byte others ih =>
        rw [List.flatMap_cons, List.append_assoc, decodeBytes_byteText, ih, List.cons_append]
    unfold characterText
    rw [read, Text.toUTF8_toList]
    simp

/-- **A text in the form of queries is read back.** -/
theorem formDecode_formEncode (text : String) : formDecode (formEncode text).toList = text := by
  have read (characters : List Char) :
      decodeBytes (spaced (characters.flatMap formCharacter)) =
        characters.flatMap String.utf8EncodeChar := by
    induction characters with
    | nil => rfl
    | cons character rest ih =>
      rw [List.flatMap_cons, List.flatMap_cons]
      unfold spaced at ih ⊢
      rw [List.map_append]
      refine (decodeBytes_formCharacter character _).trans ?_
      rw [ih]
  show Text.Utf8.readLossy (decodeBytes (spaced (formEncode text).toList)) = text
  unfold formEncode
  rw [String.toList_ofList, read, Text.Utf8.readLossy_flatMap, String.ofList_toList]

/-- The form holds neither of the marks that separate names and values. -/
theorem separator_notMem_formEncode {mark : Char} (separates : mark = '&' ∨ mark = '=')
    (text : String) : mark ∉ (formEncode text).toList := by
  have isMark : mark ∈ formMarks := by
    rcases separates with rfl | rfl
    · decide
    · decide
  unfold formEncode
  rw [String.toList_ofList]
  intro member
  obtain ⟨character, -, inside⟩ := List.mem_flatMap.mp member
  unfold formCharacter at inside
  split at inside
  · next kept =>
    rw [List.mem_singleton.mp inside] at isMark
    exact (kept_ne (by simpa using kept)).1 isMark
  · split at inside
    · rcases separates with rfl | rfl
      · exact absurd inside (by decide)
      · exact absurd inside (by decide)
    · exact characterText_notMem isMark character inside

end Percent

namespace Address

/-! ### Names and values -/

/-- The names and values of the characters of a query. -/
def pairsOf (query : List Char) : List (String × String) :=
  ((splitAt '&' query).filter (!·.isEmpty)).map fun part =>
    let (name, value) := part.span (· != '=')
    (Percent.formDecode name, Percent.formDecode value.tail)

theorem pairs_eq (address : Address) :
    address.pairs = pairsOf (address.query.getD "").toList := rfl

/-- The parts before and after a separator are read apart. -/
theorem pairsOf_append (front rest : List Char) :
    pairsOf (front ++ '&' :: rest) = pairsOf front ++ pairsOf rest := by
  unfold pairsOf splitAt
  rw [List.splitOn_append_cons_self, List.filter_append, List.map_append]

/-- One name and one value are read back. -/
theorem pairsOf_pairText (pair : String × String) : pairsOf (pairText pair).toList = [pair] := by
  have written : (pairText pair).toList =
      (Percent.formEncode pair.1).toList ++ '=' :: (Percent.formEncode pair.2).toList := by
    unfold pairText
    rw [String.toList_append, String.toList_append, List.append_assoc]
    rfl
  have whole : '&' ∉ (pairText pair).toList := by
    rw [written]
    intro member
    rcases List.mem_append.mp member with name | value
    · exact Percent.separator_notMem_formEncode (.inl rfl) pair.1 name
    rcases List.mem_cons.mp value with sign | value
    · exact absurd sign (by decide)
    · exact Percent.separator_notMem_formEncode (.inl rfl) pair.2 value
  have parts : (pairText pair).toList.span (· != '=') =
      ((Percent.formEncode pair.1).toList, '=' :: (Percent.formEncode pair.2).toList) := by
    have name : ∀ character ∈ (Percent.formEncode pair.1).toList, (character != '=') = true := by
      intro character member
      refine bne_iff_ne.mpr ?_
      rintro rfl
      exact Percent.separator_notMem_formEncode (.inr rfl) pair.1 member
    rw [List.span_eq_takeWhile_dropWhile, written, List.takeWhile_append_of_pos name,
      List.dropWhile_append_of_pos name, List.takeWhile_cons_of_neg (by decide),
      List.dropWhile_cons_of_neg (by decide), List.append_nil]
  have filled : (pairText pair).toList.isEmpty = false := by
    rw [written]
    simp
  unfold pairsOf splitAt
  rw [List.splitOn_eq_singleton whole, List.filter_cons_of_pos (by rw [filled]; rfl),
    List.filter_nil, List.map_singleton, parts]
  simp only [List.tail_cons, Percent.formDecode_formEncode]

theorem toList_separator : "&".toList = ['&'] := rfl

/-- Names and values are read back in their order. -/
theorem pairsOf_intercalate (pairs : List (String × String)) :
    pairsOf ("&".intercalate (pairs.map pairText)).toList = pairs := by
  induction pairs with
  | nil => rfl
  | cons pair rest ih =>
    cases rest with
    | nil =>
      rw [List.map_singleton, String.intercalate_singleton]
      exact pairsOf_pairText pair
    | cons next rest =>
      rw [List.map_cons, List.map_cons, String.intercalate_cons_cons, ← List.map_cons,
        String.toList_append, String.toList_append, toList_separator, List.append_assoc,
        List.singleton_append, pairsOf_append, pairsOf_pairText, ih, List.singleton_append]

/-- **What is added to the query of an address is read back from it.** -/
theorem pairs_withPairs (address : Address) (pairs : List (String × String)) :
    (address.withPairs pairs).pairs = address.pairs ++ pairs := by
  unfold withPairs
  by_cases none : pairs.isEmpty = true
  · rw [if_pos none, List.isEmpty_iff.mp none, List.append_nil]
  rw [if_neg none]
  simp only [pairs_eq]
  split
  · next absent =>
    rw [absent]
    exact pairsOf_intercalate pairs
  · next absent =>
    rw [absent]
    exact pairsOf_intercalate pairs
  · next query filled present =>
    rw [present, Option.getD_some, Option.getD_some, String.toList_append, String.toList_append,
      toList_separator, List.append_assoc, List.singleton_append, pairsOf_append,
      pairsOf_intercalate]

end Address

end CatalogSync.Url
