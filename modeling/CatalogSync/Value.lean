/-
**Values of record fields.**

* `Value` — null, a truth value, a whole number, a float, a text, a list, or named fields.
* `Value.text?` — the text of a value that is a text.
* `Value.canonical` — the same value with the fields of every object in ascending order of their
  names, each name once; of several values under one name the last counts.
-/

import CatalogSync.SortedMap
import CatalogSync.Value.Float

namespace CatalogSync

/-- What a field of a record may hold. -/
inductive Value where
  | null
  | flag (value : Bool)
  | number (value : Int)
  /-- A number with a fraction or a power of ten, or a whole number that is too large. -/
  | float (value : FiniteFloat)
  | text (value : String)
  | list (items : List Value)
  | object (fields : List (String × Value))
  deriving BEq, Inhabited

namespace Value

/-- The text of a value that is a text. -/
def text? : Value → Option String
  | .text value => some value
  | _ => none

/-- The list of the texts of values that are all texts. -/
def ofTexts (texts : List String) : Value :=
  .list (texts.map .text)

mutual

/-- The value with the fields of every object in ascending order, each name once. -/
def canonical : Value → Value
  | .null => .null
  | .flag value => .flag value
  | .number value => .number value
  | .float value => .float value
  | .text value => .text value
  | .list items => .list (canonicalItems items)
  | .object fields => .object (SortedMap.ofList (canonicalFields fields)).entries

/-- Every value of a list in canonical form. -/
def canonicalItems : List Value → List Value
  | [] => []
  | item :: rest => canonical item :: canonicalItems rest

/-- Every field's value in canonical form. -/
def canonicalFields : List (String × Value) → List (String × Value)
  | [] => []
  | (name, value) :: rest => (name, canonical value) :: canonicalFields rest

end

end Value

end CatalogSync
