/-
**Joiners.**

* `joinsFit` — whether every joiner and non-joiner of a label stands where it makes a difference:
  after a sign that silences a vowel, or, for a non-joiner, between letters that would join.
-/

import CatalogSync.Text.Ranges
import CatalogSync.Url.Domain.Composition
import CatalogSync.Url.Domain.Joining.Table

namespace CatalogSync.Url.Domain

/-- The combining class of the signs that silence a vowel. -/
def silencingClass : Nat := 9

/-- Whether the first letter, marks apart, joins in the way of the given ranges or on both sides. -/
def meetsJoining (ranges : List (Nat × Nat)) (characters : List Char) : Bool :=
  match characters.dropWhile fun character => Text.within transparent character.toNat with
  | [] => false
  | character :: _ =>
    Text.within dualJoining character.toNat || Text.within ranges character.toNat

/-- Whether a character may stand where it does, given those before it, the nearest one first, and
those after it. -/
def joinFits (before : List Char) (character : Char) (after : List Char) : Bool :=
  if character = '\u200C' ∨ character = '\u200D' then
    match before with
    | [] => false
    | previous :: _ =>
      combiningClass previous.toNat == silencingClass ||
        (character == '\u200C' && meetsJoining leftJoining before &&
          meetsJoining rightJoining after)
  else
    true

/-- Whether all characters may stand where they do, given those before them, the nearest one first.
-/
def joinsFitAfter (before : List Char) : List Char → Bool
  | [] => true
  | character :: rest =>
    joinFits before character rest && joinsFitAfter (character :: before) rest

/-- Whether all joiners of a label stand where they make a difference. -/
def joinsFit (label : List Char) : Bool := joinsFitAfter [] label

end CatalogSync.Url.Domain
