/-
**Events worth telling an operator.**

* `Event` — a level, a message and named fields, in the order in which they are given.
-/

namespace CatalogSync

/-- How much an event matters. -/
inductive Level where
  | debug
  | info
  | warn
  | error
  deriving DecidableEq, Repr

/-- The name of a level. -/
def Level.name : Level → String
  | .debug => "debug"
  | .info => "info"
  | .warn => "warn"
  | .error => "error"

/-- What a field of an event holds. -/
inductive Detail where
  | number (value : Nat)
  | flag (value : Bool)
  | text (value : String)
  deriving DecidableEq, Repr

/-- Something that happened. -/
structure Event where
  level : Level
  message : String
  fields : List (String × Detail)
  deriving DecidableEq, Repr

end CatalogSync
