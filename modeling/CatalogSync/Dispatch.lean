/-
**Applying one change to the index.**

* `Registry.dispatch` — a created entity is inserted, a changed one is updated and committed, a
  deleted one is removed by its id alone, through the writer that is registered for its type.
-/

import CatalogSync.Change
import CatalogSync.Registry

namespace CatalogSync.Registry

variable {σ : Type}

/-- The call that brings one change to an index. -/
def applyChange (writer : IndexWriter σ) (record : Record) (operation : ChangeOperation) :
    Action σ Unit :=
  match operation with
  | .created => writer.insert record
  | .changed => writer.update record false
  | .deleted => writer.remove ((record.id?.map Record.idOnly).getD record)

/-- Applies one change to the index of its type and tells how it went. -/
def dispatch (registry : Registry (IndexWriter σ)) (entityType : EntityType) (record : Record)
    (operation : ChangeOperation) : Action σ Unit := do
  let writer ← registry.writerFor entityType
  match ← (applyChange writer record operation).attempt with
  | .ok () => .tell .debug "Change dispatched" []
  | .error failure => do
    .tell .error "Failed to apply change to search index" [("error", .text failure.message)]
    .fail failure

end CatalogSync.Registry
