/-
**Ranges and runs of code points, and tables of them.**

* `within` — whether a code point lies in one of some closed ranges.
* `Run` — code points at equal distances, each with an image at the same distances.
* `Rows.read` — the rows of a table that is written as text: numbers in capital hexadecimal digits
  with blanks between them, and a comma after every row but the last.
* `Rows.ranges` — a table of closed ranges. A range of one code point is written by one number.
* `Rows.runs` — a table of runs: first, last, step and image.
-/

import CatalogSync.Text.Blank
import CatalogSync.Text.Digits

namespace CatalogSync.Text

/-! ### Ranges and runs -/

/-- Whether a code point lies in one of the closed ranges. -/
def within (ranges : List (Nat × Nat)) (code : Nat) : Bool :=
  ranges.any fun range => range.1 ≤ code && code ≤ range.2

/-- Code points `first`, `first + step`, … up to `last`, whose images lie at the same distances from
`image`. -/
structure Run where
  first : Nat
  last : Nat
  step : Nat
  image : Nat
  deriving Repr, DecidableEq

namespace Run

/-- Whether a code point belongs to the run. -/
def holds (run : Run) (code : Nat) : Bool :=
  run.first ≤ code && code ≤ run.last && (code - run.first) % run.step == 0

/-- The image of a code point that belongs to the run. -/
def imageOf (run : Run) (code : Nat) : Nat :=
  run.image + (code - run.first)

end Run

/-! ### Tables -/

namespace Rows

/-- The numbers of a row. -/
def row (characters : List Char) : List Nat :=
  (characters.splitOnP isBlank).filterMap fun digits =>
    if digits.isEmpty then none else digits? 16 digits

/-- The rows of a table. -/
def read (text : String) : List (List Nat) :=
  (text.toList.splitOn ',').map row

/-- The closed ranges that the rows of a table give. -/
def ranges (text : String) : List (Nat × Nat) :=
  (read text).filterMap fun
    | [single] => some (single, single)
    | [first, last] => some (first, last)
    | _ => none

/-- The runs that the rows of a table give. -/
def runs (text : String) : List Run :=
  (read text).filterMap fun
    | [first, last, step, image] => some ⟨first, last, step, image⟩
    | _ => none

end Rows

end CatalogSync.Text
