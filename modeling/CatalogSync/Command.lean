/-
**What an operator can ask for.**

* `Operation` — one operation on the index.
* `Operation.readsStore` — whether it needs the store of record.
* `Command` — an operation, or a check of the schema, which needs neither index nor store.
-/

import CatalogSync.Bulk.Report

namespace CatalogSync

/-- One operation on the index. -/
inductive Operation where
  | rebuild (selector : Selector) (options : RebuildOptions)
  /-- Make pending writes visible. -/
  | commit
  /-- List the active datasets that the index does not hold. -/
  | check
  /-- Print the document with an id or a name. -/
  | display (reference : String)
  /-- Remove the document with an id or a name, or all of them. -/
  | clear (reference : Option String)
  deriving DecidableEq, Repr

/-- Whether the operation needs the store of record. -/
def Operation.readsStore : Operation → Bool
  | .rebuild .. | .check => true
  | .commit | .display _ | .clear _ => false

/-- What an operator can ask for. -/
inductive Command where
  | operate (operation : Operation)
  /-- Check the version of the engine's schema, or of the one in a file. -/
  | checkSchema (path : Option String)
  deriving DecidableEq, Repr

end CatalogSync
