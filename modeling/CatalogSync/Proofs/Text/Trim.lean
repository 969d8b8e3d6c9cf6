/-
**Trimming.**

* `Bare` — the characters at the two ends of a list fail a test.
* `bare_trimWhile` — they do so once the list is trimmed, and `exists_frame` — nothing else is lost.
* **`trimWhile_frame`**, **`trimWhile_append`** — trimming finds what is bare between characters
  that pass the test, so that more of them make no difference.
* **`trim_append`** — nor do blanks around a text.
-/

import CatalogSync.Text.Blank
import Mathlib.Data.List.DropRight

namespace CatalogSync.Text

section List

variable {test : Char → Bool} {characters kept before after : List Char}

/-- The characters at the two ends of a list fail a test. -/
structure Bare (test : Char → Bool) (characters : List Char) : Prop where
  first : ∀ character, characters.head? = some character → test character = false
  last : ∀ character, characters.getLast? = some character → test character = false

/-- Nothing is dropped from a list that starts with a character that fails the test. -/
theorem dropWhile_of_first
    (first : ∀ character, characters.head? = some character → test character = false) :
    characters.dropWhile test = characters := by
  cases characters with
  | nil => rfl
  | cons character rest =>
    exact List.dropWhile_cons_of_neg (Bool.eq_false_iff.mp (first character rfl))

theorem first_dropWhile (characters : List Char) (character : Char)
    (found : (characters.dropWhile test).head? = some character) : test character = false := by
  have stopped := List.head?_dropWhile_not test characters
  rw [found] at stopped
  exact stopped

/-- A list that is trimmed is bare. -/
theorem bare_trimWhile (test : Char → Bool) (characters : List Char) :
    Bare test (trimWhile test characters) where
  first character found := by
    obtain ⟨rest, split⟩ : trimWhile test characters <+: characters.dropWhile test :=
      List.rdropWhile_prefix test (characters.dropWhile test)
    refine first_dropWhile characters character ?_
    rw [← split, List.head?_append, found]
    rfl
  last character found := by
    unfold trimWhile at found
    rw [List.getLast?_reverse] at found
    exact first_dropWhile _ character found

/-- **Trimming finds what is bare between characters that pass the test.** -/
theorem trimWhile_frame (bare : Bare test kept) (passBefore : ∀ character ∈ before, test character)
    (passAfter : ∀ character ∈ after, test character) :
    trimWhile test (before ++ kept ++ after) = kept := by
  unfold trimWhile
  rw [List.append_assoc, List.dropWhile_append_of_pos passBefore]
  by_cases empty : kept = []
  · rw [empty, List.nil_append, List.dropWhile_eq_nil_iff.mpr passAfter]
    rfl
  have starts : (kept ++ after).dropWhile test = kept ++ after := by
    refine dropWhile_of_first fun character found => bare.first character ?_
    rwa [List.head?_append_of_ne_nil kept empty] at found
  have passReversed : ∀ character ∈ after.reverse, test character :=
    fun character member => passAfter character (List.mem_reverse.mp member)
  have ends : kept.reverse.dropWhile test = kept.reverse := by
    refine dropWhile_of_first fun character found => bare.last character ?_
    rwa [List.head?_reverse] at found
  rw [starts, List.reverse_append, List.dropWhile_append_of_pos passReversed, ends,
    List.reverse_reverse]

/-- Nothing is lost by trimming but characters that pass the test. -/
theorem exists_frame (test : Char → Bool) (characters : List Char) :
    ∃ before after, (∀ character ∈ before, test character) ∧
      (∀ character ∈ after, test character) ∧
      characters = before ++ trimWhile test characters ++ after := by
  refine ⟨characters.takeWhile test, (characters.dropWhile test).rtakeWhile test,
    fun _ member => List.mem_takeWhile_imp member, fun _ member => List.mem_rtakeWhile_imp member,
    ?_⟩
  have split : trimWhile test characters ++ (characters.dropWhile test).rtakeWhile test =
      characters.dropWhile test := List.rdropWhile_append_rtakeWhile
  rw [List.append_assoc, split, List.takeWhile_append_dropWhile]

/-- **More characters that pass the test make no difference around a list that is trimmed.** -/
theorem trimWhile_append (passBefore : ∀ character ∈ before, test character)
    (passAfter : ∀ character ∈ after, test character) (characters : List Char) :
    trimWhile test (before ++ characters ++ after) = trimWhile test characters := by
  obtain ⟨start, finish, passStart, passFinish, split⟩ := exists_frame test characters
  have whole : before ++ characters ++ after =
      (before ++ start) ++ trimWhile test characters ++ (finish ++ after) := by
    conv_lhs => rw [split]
    simp only [List.append_assoc]
  rw [whole]
  refine trimWhile_frame (bare_trimWhile test characters) (fun character member => ?_)
    fun character member => ?_
  · rcases List.mem_append.mp member with here | there
    · exact passBefore character here
    · exact passStart character there
  · rcases List.mem_append.mp member with here | there
    · exact passFinish character here
    · exact passAfter character there

end List

/-! ### Texts -/

theorem isAllBlank_iff {text : String} :
    isAllBlank text = true ↔ ∀ character ∈ text.toList, isBlank character = true :=
  List.all_eq_true

/-- **Blanks around a text make no difference once it is trimmed.** -/
theorem trim_append {before after : String} (blankBefore : isAllBlank before = true)
    (blankAfter : isAllBlank after = true) (text : String) :
    trim (before ++ text ++ after) = trim text := by
  unfold trim
  rw [String.toList_append, String.toList_append,
    trimWhile_append (isAllBlank_iff.mp blankBefore) (isAllBlank_iff.mp blankAfter)]

/-- Nothing is left of a text that is blank. -/
theorem trim_of_isAllBlank {text : String} (blank : isAllBlank text = true) : trim text = "" := by
  have nothing : trimWhile isBlank (text.toList ++ [] ++ []) = [] :=
    trimWhile_frame ⟨nofun, nofun⟩ (isAllBlank_iff.mp blank) nofun
  rw [List.append_nil, List.append_nil] at nothing
  unfold trim
  rw [nothing, String.ofList_nil]

/-- A text without blanks at its ends stays as it is. -/
theorem trim_of_bare {text : String} (bare : Bare isBlank text.toList) : trim text = text := by
  have kept : trimWhile isBlank ([] ++ text.toList ++ []) = text.toList :=
    trimWhile_frame bare nofun nofun
  rw [List.nil_append, List.append_nil] at kept
  unfold trim
  rw [kept, String.ofList_toList]

end CatalogSync.Text
