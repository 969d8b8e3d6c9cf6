/-
**Which texts write a number.**

* `Digits`, `Writes` — characters write a number: one or more decimal digits, after a plus sign or
  after none.
* `foldlM_withDigit_eq_ok_iff` — reading digit by digit comes to the number that the digits write
  just if it stays below the limit, since a number never gets smaller by a further digit.
* **`decimal_eq_ok_iff`** — so a number is read from a text just if the text writes it and it lies
  below the limit, however many zeros it starts with. `word?_eq_some_iff` is the case of 64 bits.
-/

import CatalogSync.Text.Digits

namespace CatalogSync.Text

/-- One or more decimal digits, the first of which counts most. -/
structure Digits (digits : List Char) (number : Nat) : Prop where
  some : digits ≠ []
  each : ∀ digit ∈ digits, digit.isDigit = true
  value : Nat.ofDigitChars 10 digits 0 = number

/-- Characters that write a number in decimal digits, after a plus sign or after none. -/
inductive Writes : List Char → Nat → Prop
  | plain {digits : List Char} {number : Nat} (written : Digits digits number) :
    Writes digits number
  | signed {digits : List Char} {number : Nat} (written : Digits digits number) :
    Writes ('+' :: digits) number

variable {limit value number : Nat} {digits : List Char}

/-! ### Digit by digit -/

theorem withDigit_eq_ok_iff {character : Char} :
    withDigit limit value character = .ok number ↔
      character.isDigit = true ∧ 10 * value + (character.toNat - '0'.toNat) = number ∧
        number < limit := by
  unfold withDigit
  by_cases digit : character.isDigit = true
  · rw [if_pos digit, Nat.mul_comm]
    by_cases fits : 10 * value + (character.toNat - '0'.toNat) < limit
    · rw [if_pos fits, Except.ok.injEq]
      exact ⟨fun same => ⟨digit, same, same ▸ fits⟩, fun written => written.2.1⟩
    · rw [if_neg fits]
      refine ⟨nofun, fun written => ?_⟩
      obtain ⟨-, same, below⟩ := written
      exact absurd (same ▸ below) fits
  · rw [if_neg digit]
    exact ⟨nofun, fun written => absurd written.1 digit⟩

/-- Further digits make a number no smaller. -/
theorem le_ofDigitChars (digits : List Char) (value : Nat) :
    value ≤ Nat.ofDigitChars 10 digits value := by
  induction digits generalizing value with
  | nil => exact Nat.le_refl value
  | cons digit rest ih =>
    rw [Nat.ofDigitChars_cons]
    have further := ih (10 * value + (digit.toNat - '0'.toNat))
    omega

/-- **Reading digit by digit comes to the number that the digits write, if it is below the limit.**
-/
theorem foldlM_withDigit_eq_ok_iff :
    digits.foldlM (withDigit limit) value = .ok number ↔
      (∀ digit ∈ digits, digit.isDigit = true) ∧ Nat.ofDigitChars 10 digits value = number ∧
        (digits = [] ∨ number < limit) := by
  induction digits generalizing value with
  | nil =>
    show Except.ok value = .ok number ↔ _
    rw [Except.ok.injEq]
    exact ⟨fun same => ⟨nofun, same, .inl rfl⟩, fun written => written.2.1⟩
  | cons digit rest ih =>
    rw [List.foldlM_cons, Nat.ofDigitChars_cons]
    constructor
    · intro read
      cases first : withDigit limit value digit with
      | error problem =>
        rw [first] at read
        cases read
      | ok next =>
        rw [first] at read
        obtain ⟨here, rfl, fits⟩ := withDigit_eq_ok_iff.mp first
        obtain ⟨each, same, below⟩ := ih.mp read
        refine ⟨List.forall_mem_cons.mpr ⟨here, each⟩, same, .inr ?_⟩
        rcases below with none | below
        · rw [none] at same
          exact same ▸ fits
        · exact below
    · rintro ⟨each, same, below⟩
      obtain ⟨here, others⟩ := List.forall_mem_cons.mp each
      have below : number < limit := below.resolve_left (List.cons_ne_nil _ _)
      -- the number so far is at most the whole one, so it is below the limit as well
      have soFar := le_ofDigitChars rest (10 * value + (digit.toNat - '0'.toNat))
      have fits : 10 * value + (digit.toNat - '0'.toNat) < limit := by omega
      rw [withDigit_eq_ok_iff.mpr ⟨here, rfl, fits⟩]
      exact ih.mpr ⟨others, same, .inr below⟩

theorem decimalOfDigits_eq_ok_iff :
    decimalOfDigits limit digits = .ok number ↔ Digits digits number ∧ number < limit := by
  cases digits with
  | nil => exact ⟨nofun, fun written => absurd rfl written.1.some⟩
  | cons digit rest =>
    show (digit :: rest).foldlM (withDigit limit) 0 = .ok number ↔ _
    rw [foldlM_withDigit_eq_ok_iff]
    constructor
    · rintro ⟨each, same, below⟩
      exact ⟨⟨List.cons_ne_nil _ _, each, same⟩, below.resolve_left (List.cons_ne_nil _ _)⟩
    · rintro ⟨written, below⟩
      exact ⟨written.each, written.value, .inr below⟩

/-! ### Texts -/

/-- A plus sign is no digit. -/
theorem not_digits_signed : ¬ Digits ('+' :: digits) number := fun written =>
  absurd (written.each '+' List.mem_cons_self) (by decide)

/-- **A number is read from a text just if the text writes it and it lies below the limit.** -/
theorem decimal_eq_ok_iff {text : String} :
    decimal limit text = .ok number ↔ Writes text.toList number ∧ number < limit := by
  unfold decimal
  split
  · next empty =>
    refine ⟨nofun, fun ⟨written, _⟩ => ?_⟩
    rw [empty] at written
    cases written with
    | plain written => exact absurd rfl written.some
  · next digits signed =>
    rw [signed, decimalOfDigits_eq_ok_iff]
    constructor
    · rintro ⟨written, below⟩
      exact ⟨.signed written, below⟩
    · rintro ⟨written, below⟩
      cases written with
      | plain written => exact absurd written not_digits_signed
      | signed written => exact ⟨written, below⟩
  · next unsigned =>
    rw [decimalOfDigits_eq_ok_iff]
    constructor
    · rintro ⟨written, below⟩
      exact ⟨.plain written, below⟩
    · rintro ⟨written, below⟩
      generalize text.toList = characters at written unsigned ⊢
      cases written with
      | plain written => exact ⟨written, below⟩
      | signed written => exact absurd rfl (unsigned _)

/-- The same for numbers that fit into 64 bits. -/
theorem word?_eq_some_iff {text : String} :
    word? text = some number ↔ Writes text.toList number ∧ number < wordLimit := by
  rw [← decimal_eq_ok_iff]
  unfold word?
  cases decimal wordLimit text with
  | error problem => exact ⟨nofun, nofun⟩
  | ok found =>
    exact ⟨fun read => congrArg Except.ok (Option.some.inj read),
      fun read => congrArg some (Except.ok.inj read)⟩

end CatalogSync.Text
