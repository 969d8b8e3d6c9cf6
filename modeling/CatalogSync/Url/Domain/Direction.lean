/-
**Directions of writing.**

* `Direction`, `direction` — how a character takes part in the direction of a text.
* `turnsAround` — whether a label has characters that run from right to left.
* `runsEvenly` — whether a label can be shown without its characters changing places with those of
  other labels: it starts with a letter, it ends with a letter or a number, everything between fits
  the direction of the start, and numbers are of one kind.
-/

import CatalogSync.Text.Ranges
import CatalogSync.Url.Domain.Direction.Table

namespace CatalogSync.Url.Domain

/-- How a character takes part in the direction of a text. -/
inductive Direction where
  | leftToRight
  | rightToLeft
  | europeanNumber
  | arabicNumber
  | nonspacing
  | neutral
  deriving DecidableEq, Repr

/-- The direction of a character. -/
def direction (character : Char) : Direction :=
  let code := character.toNat
  if Text.within rightToLeft code then .rightToLeft
  else if Text.within europeanNumbers code then .europeanNumber
  else if Text.within arabicNumbers code then .arabicNumber
  else if Text.within nonspacing code then .nonspacing
  else if Text.within neutral code then .neutral
  else .leftToRight

/-- Whether a label has characters that run from right to left. -/
def turnsAround (label : List Char) : Bool :=
  label.any fun character => direction character ∈ [.rightToLeft, .arabicNumber]

/-- Whether what follows the first letter of a label fits it, given in reverse and without the marks
at its end. -/
def fitsStart (start : Direction) : List Direction → Bool
  | [] => true
  | last :: middle =>
    if start = .leftToRight then
      last ∈ [.leftToRight, .europeanNumber] &&
        middle.all (· ∉ [.rightToLeft, .arabicNumber])
    else
      last ∈ [.rightToLeft, .europeanNumber, .arabicNumber] && middle.all (· ≠ .leftToRight) &&
        !((last :: middle).contains .europeanNumber && (last :: middle).contains .arabicNumber)

/-- Whether a label can be shown without mixing with others. -/
def runsEvenly (label : List Char) : Bool :=
  match label.map direction with
  | [] => true
  | start :: rest =>
    start ∈ [.leftToRight, .rightToLeft] &&
      fitsStart start (rest.reverse.dropWhile (· = .nonspacing))

end CatalogSync.Url.Domain
