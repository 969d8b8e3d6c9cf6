/-
**Small letters stay small.**

* `Run.images` — the images of a run are a run themselves. `Run.isApartFrom` — two runs have no code
  point in common, for a reason that can be read off their ends and their steps.
* `Small` — a character that is its own small form; `small_of_mem_lowerCharacter` — the small form
  of a character consists of such characters, and `isBlank_of_mem_lowerCharacter` — it has no blank
  but that of a blank.
* `formBetween` — what a character becomes between others; `lowerAfter_cons` — a small form is made
  of these, one after the other.
* **`lowercase_lowercase`** — a small form is its own small form.
* **`bare_lowerCharacters`** — a text without blanks at its ends has a small form without them.
-/

import CatalogSync.Proofs.Text.Trim
import CatalogSync.Text.Lowercase

namespace CatalogSync.Text

/-! ### Runs and their images -/

namespace Run

variable {run other : Run} {code : Nat}

/-- The images of a run, with the run as their images. -/
def images (run : Run) : Run :=
  ⟨run.image, run.image + (run.last - run.first), run.step, run.first⟩

/-- One run ends before the other starts, or the code points of the first leave another remainder
than those of the second. -/
def isApartFrom (run other : Run) : Bool :=
  run.last < other.first || (other.last < run.first ||
    ((run.first == run.last || run.step % other.step == 0) &&
      run.first % other.step != other.first % other.step))

theorem holds_iff : run.holds code = true ↔
    run.first ≤ code ∧ code ≤ run.last ∧ (code - run.first) % run.step = 0 := by
  simp [holds, and_assoc]

/-- The image of a code point of a run is an image of the run. -/
theorem holds_images (held : run.holds code = true) :
    run.images.holds (run.imageOf code) = true := by
  obtain ⟨above, below, inStep⟩ := holds_iff.mp held
  refine holds_iff.mpr ⟨Nat.le_add_right _ _, Nat.add_le_add_left (by omega) _, ?_⟩
  show (run.image + (code - run.first) - run.image) % run.step = 0
  rw [Nat.add_sub_cancel_left, inStep]

/-- The code points of a run leave the remainder that its first one leaves. -/
theorem mod_of_holds (held : run.holds code = true) {step : Nat}
    (divides : run.first = run.last ∨ run.step % step = 0) : code % step = run.first % step := by
  obtain ⟨above, below, inStep⟩ := holds_iff.mp held
  rcases divides with single | divides
  · rw [Nat.le_antisymm (single ▸ below) above]
  · obtain ⟨count, distance⟩ : step ∣ code - run.first :=
      Nat.dvd_trans (Nat.dvd_of_mod_eq_zero divides) (Nat.dvd_of_mod_eq_zero inStep)
    have reached : code = run.first + step * count := by omega
    rw [reached, Nat.add_mul_mod_self_left]

/-- Runs that are apart have no code point in common. -/
theorem not_holds_of_apart (apart : run.isApartFrom other = true) (held : run.holds code = true) :
    other.holds code = false := by
  simp only [isApartFrom, Bool.or_eq_true, Bool.and_eq_true, decide_eq_true_eq, beq_iff_eq,
    bne_iff_ne] at apart
  refine Bool.eq_false_iff.mpr fun shared => ?_
  obtain ⟨above, below, -⟩ := holds_iff.mp held
  obtain ⟨otherAbove, otherBelow, -⟩ := holds_iff.mp shared
  rcases apart with before | behind | ⟨divides, differs⟩
  · omega
  · omega
  · have same : code % other.step = other.first % other.step :=
      mod_of_holds shared (.inr (Nat.mod_self _))
    exact differs ((mod_of_holds held divides).symm.trans same)

end Run

namespace Lowercase

/-! ### The tables -/

/-- The ranges of the blank characters. -/
def blankRanges : List (Nat × Nat) :=
  [(0x9, 0xD), (0x20, 0x20), (0x85, 0x85), (0xA0, 0xA0), (0x1680, 0x1680), (0x2000, 0x200A),
    (0x2028, 0x2029), (0x202F, 0x202F), (0x205F, 0x205F), (0x3000, 0x3000)]

theorem exists_range_of_isBlank {character : Char} (blank : isBlank character = true) :
    ∃ range ∈ blankRanges, range.1 ≤ character.toNat ∧ character.toNat ≤ range.2 := by
  simp only [isBlank, Bool.or_eq_true, Bool.and_eq_true, decide_eq_true_eq, beq_iff_eq] at blank
  simp only [blankRanges, List.mem_cons, List.not_mem_nil, or_false, exists_eq_or_imp,
    exists_eq_left]
  omega

/-- No letter with a small form of its own is the small form of a letter. -/
theorem images_apart : (runs.all fun run => runs.all run.images.isApartFrom) = true := by
  decide +kernel

/-- Small forms are characters, none of them the dotted capital I. -/
theorem images_valid : ∀ run ∈ runs, run.images.holds 0x130 = false ∧
    (run.images.last < 0xD800 ∨ 0xDFFF < run.images.first ∧ run.images.last < 0x110000) := by
  decide +kernel

/-- No small form is blank. -/
theorem images_visible : ∀ run ∈ runs, ∀ range ∈ blankRanges,
    run.images.last < range.1 ∨ range.2 < run.images.first := by
  decide +kernel

section Image

variable {run : Run} {code : Nat} (member : run ∈ runs) (held : run.holds code = true)
include member held

theorem toNat_image : (Char.ofNat (run.imageOf code)).toNat = run.imageOf code := by
  obtain ⟨above, below, -⟩ := Run.holds_iff.mp (Run.holds_images held)
  have valid : (run.imageOf code).isValidChar := by
    rcases (images_valid run member).2 with low | ⟨high, few⟩
    · exact .inl (by omega)
    · exact .inr ⟨by omega, by omega⟩
  rw [Char.ofNat, dif_pos valid]
  rfl

theorem isBlank_image : isBlank (Char.ofNat (run.imageOf code)) = false := by
  refine Bool.eq_false_iff.mpr fun blank => ?_
  obtain ⟨range, listed, low, high⟩ := exists_range_of_isBlank blank
  rw [toNat_image member held] at low high
  obtain ⟨above, below, -⟩ := Run.holds_iff.mp (Run.holds_images held)
  have apart := images_visible run member range listed
  omega

end Image

/-! ### One character -/

/-- A character that is its own small form. -/
structure Small (character : Char) : Prop where
  undotted : character ≠ 'İ'
  unlisted : ∀ run ∈ runs, run.holds character.toNat = false

theorem Small.kept {character : Char} (small : Small character) :
    lowerCharacter character = [character] := by
  have none : runs.find? (·.holds character.toNat) = none :=
    List.find?_eq_none.mpr fun run member => Bool.eq_false_iff.mp (small.unlisted run member)
  unfold lowerCharacter
  rw [if_neg small.undotted, none]

theorem Small.ne_sigma {character : Char} (small : Small character) : character ≠ 'Σ' := by
  rintro rfl
  have listed : ∃ run ∈ runs, run.holds 'Σ'.toNat = true := by decide +kernel
  obtain ⟨run, member, held⟩ := listed
  exact absurd held (Bool.eq_false_iff.mp (small.unlisted run member))

theorem small_image {run : Run} {code : Nat} (member : run ∈ runs)
    (held : run.holds code = true) : Small (Char.ofNat (run.imageOf code)) where
  undotted same := by
    have dotted : run.images.holds 0x130 = true := by
      have code : run.imageOf code = 0x130 :=
        (toNat_image member held).symm.trans (congrArg Char.toNat same)
      exact code ▸ Run.holds_images held
    exact absurd dotted (Bool.eq_false_iff.mp (images_valid run member).1)
  unlisted other listed := by
    have apart := List.all_eq_true.mp (List.all_eq_true.mp images_apart run member) other listed
    rw [toNat_image member held]
    exact Run.not_holds_of_apart apart (Run.holds_images held)

theorem small_dotless : Small 'i' ∧ Small '\u0307' :=
  ⟨⟨by decide, by decide +kernel⟩, ⟨by decide, by decide +kernel⟩⟩

theorem small_sigma : Small 'σ' ∧ Small 'ς' :=
  ⟨⟨by decide, by decide +kernel⟩, ⟨by decide, by decide +kernel⟩⟩

/-- The small form of a character is one of three kinds. -/
theorem lowerCharacter_cases (character : Char) :
    character = 'İ' ∧ lowerCharacter character = ['i', '\u0307'] ∨
      (∃ run ∈ runs, run.holds character.toNat = true ∧
        lowerCharacter character = [Char.ofNat (run.imageOf character.toNat)]) ∨
      Small character := by
  by_cases dotted : character = 'İ'
  · exact .inl ⟨dotted, by unfold lowerCharacter; rw [if_pos dotted]⟩
  cases listed : runs.find? (·.holds character.toNat) with
  | some run =>
    have held := List.find?_some listed
    refine .inr (.inl ⟨run, List.mem_of_find?_eq_some listed, held, ?_⟩)
    unfold lowerCharacter
    rw [if_neg dotted, listed]
  | none =>
    exact .inr (.inr ⟨dotted, fun run member =>
      Bool.eq_false_iff.mpr (List.find?_eq_none.mp listed run member)⟩)

theorem lowerCharacter_ne_nil (character : Char) : lowerCharacter character ≠ [] := by
  rcases lowerCharacter_cases character with ⟨-, form⟩ | ⟨run, -, -, form⟩ | small
  · rw [form]
    exact List.cons_ne_nil _ _
  · rw [form]
    exact List.cons_ne_nil _ _
  · rw [small.kept]
    exact List.cons_ne_nil _ _

/-- **The small form of a character stays as it is.** -/
theorem small_of_mem_lowerCharacter {character form : Char}
    (member : form ∈ lowerCharacter character) : Small form := by
  rcases lowerCharacter_cases character with ⟨-, forms⟩ | ⟨run, listed, held, forms⟩ | small
  · rw [forms, List.mem_pair] at member
    rcases member with rfl | rfl
    · exact small_dotless.1
    · exact small_dotless.2
  · rw [forms, List.mem_singleton] at member
    exact member ▸ small_image listed held
  · rw [small.kept, List.mem_singleton] at member
    exact member ▸ small

/-- The small form of a visible character is visible. -/
theorem isBlank_of_mem_lowerCharacter {character form : Char} (visible : isBlank character = false)
    (member : form ∈ lowerCharacter character) : isBlank form = false := by
  rcases lowerCharacter_cases character with ⟨-, forms⟩ | ⟨run, listed, held, forms⟩ | small
  · rw [forms, List.mem_pair] at member
    rcases member with rfl | rfl
    · rfl
    · rfl
  · rw [forms, List.mem_singleton] at member
    exact member ▸ isBlank_image listed held
  · rw [small.kept, List.mem_singleton] at member
    exact member ▸ visible

/-! ### Characters between others -/

/-- What a character becomes between those before it, the nearest one first, and those after it. -/
def formBetween (before : List Char) (character : Char) (rest : List Char) : List Char :=
  if character = 'Σ' then
    [if meetsLetter before && !meetsLetter rest then 'ς' else 'σ']
  else
    lowerCharacter character

variable {before rest : List Char} {character form : Char}

theorem formBetween_ne_nil (before : List Char) (character : Char) (rest : List Char) :
    formBetween before character rest ≠ [] := by
  unfold formBetween
  split
  · exact List.cons_ne_nil _ _
  · exact lowerCharacter_ne_nil character

theorem mem_formBetween (member : form ∈ formBetween before character rest) :
    form = 'ς' ∨ form = 'σ' ∨ form ∈ lowerCharacter character := by
  unfold formBetween at member
  split at member
  · rw [List.mem_singleton] at member
    split at member
    · exact .inl member
    · exact .inr (.inl member)
  · exact .inr (.inr member)

theorem small_of_mem_formBetween (member : form ∈ formBetween before character rest) :
    Small form := by
  rcases mem_formBetween member with rfl | rfl | lowered
  · exact small_sigma.2
  · exact small_sigma.1
  · exact small_of_mem_lowerCharacter lowered

theorem isBlank_of_mem_formBetween (visible : isBlank character = false)
    (member : form ∈ formBetween before character rest) : isBlank form = false := by
  rcases mem_formBetween member with rfl | rfl | lowered
  · rfl
  · rfl
  · exact isBlank_of_mem_lowerCharacter visible lowered

/-- A small form is made of what its characters become, one after the other. -/
theorem lowerAfter_cons (before : List Char) (character : Char) (rest : List Char) :
    lowerAfter before (character :: rest) =
      formBetween before character rest ++ lowerAfter (character :: before) rest := by
  unfold formBetween
  by_cases sigma : character = 'Σ'
  · subst sigma
    rw [if_pos rfl, lowerAfter, List.singleton_append]
  · rw [if_neg sigma, lowerAfter.eq_3 _ _ _ sigma]

/-- All characters of a small form are small. -/
theorem small_of_mem_lowerAfter {characters : List Char}
    (member : form ∈ lowerAfter before characters) : Small form := by
  induction characters generalizing before with
  | nil => cases member
  | cons character rest ih =>
    rw [lowerAfter_cons, List.mem_append] at member
    rcases member with here | there
    · exact small_of_mem_formBetween here
    · exact ih there

/-- Small characters are their own small form, whatever stands before them. -/
theorem lowerAfter_of_small {characters : List Char}
    (small : ∀ character ∈ characters, Small character) (before : List Char) :
    lowerAfter before characters = characters := by
  induction characters generalizing before with
  | nil => rfl
  | cons character rest ih =>
    have here := small character List.mem_cons_self
    rw [lowerAfter_cons, ih fun other member => small other (List.mem_cons_of_mem _ member)]
    unfold formBetween
    rw [if_neg here.ne_sigma, here.kept, List.singleton_append]

/-- A small form ends with what the last character becomes. -/
theorem last_lowerAfter {characters : List Char}
    (found : (lowerAfter before characters).getLast? = some form) :
    ∃ last ahead behind, characters.getLast? = some last ∧
      form ∈ formBetween ahead last behind := by
  induction characters generalizing before with
  | nil => cases found
  | cons character rest ih =>
    rw [lowerAfter_cons] at found
    cases rest with
    | nil =>
      rw [lowerAfter, List.append_nil] at found
      exact ⟨character, before, [], rfl, List.mem_of_getLast? found⟩
    | cons next others =>
      have further : lowerAfter (character :: before) (next :: others) ≠ [] := by
        rw [lowerAfter_cons]
        exact List.append_ne_nil_of_left_ne_nil (formBetween_ne_nil _ _ _) _
      rw [List.getLast?_append_of_ne_nil _ further] at found
      obtain ⟨last, ahead, behind, ends, member⟩ := ih found
      exact ⟨last, ahead, behind, by rw [List.getLast?_cons_cons, ends], member⟩

end Lowercase

open Lowercase

/-! ### Texts -/

/-- **A small form is its own small form.** -/
theorem lowercase_lowercase (text : String) : lowercase (lowercase text) = lowercase text := by
  unfold lowercase lowerCharacters
  rw [String.toList_ofList, lowerAfter_of_small fun _ => small_of_mem_lowerAfter]

/-- **Characters that are not blank at their ends have a small form that is not.** -/
theorem bare_lowerCharacters {characters : List Char} (bare : Bare isBlank characters) :
    Bare isBlank (lowerCharacters characters) where
  first form found := by
    cases characters with
    | nil => cases found
    | cons character rest =>
      unfold lowerCharacters at found
      rw [lowerAfter_cons, List.head?_append_of_ne_nil _ (formBetween_ne_nil _ _ _)] at found
      exact isBlank_of_mem_formBetween (bare.first character rfl) (List.mem_of_head? found)
  last form found := by
    obtain ⟨last, ahead, behind, ends, member⟩ := last_lowerAfter found
    exact isBlank_of_mem_formBetween (bare.last last ends) member

end CatalogSync.Text
