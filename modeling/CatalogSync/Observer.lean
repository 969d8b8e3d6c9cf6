/-
**Keeping the index up to date.**

* `Observer` — a listener that brings changes of one type to the index, unless it is switched off.
* `Observer.notify` — a created or changed entity is fetched from the store of record and indexed as
  it is there; a deleted one is removed by its id.
-/

import CatalogSync.Dispatch
import CatalogSync.Feed
import CatalogSync.Store

namespace CatalogSync

/-- A listener that brings changes of one type to the index. -/
structure Observer (σ : Type) where
  tracked : EntityType
  automatic : Bool
  store : RecordStore σ
  indexes : Registry (IndexWriter σ)

namespace Observer

variable {σ : Type}

/-- Brings one change to the index. -/
def notify (observer : Observer σ) (identity : Identity) (operation : ChangeOperation) :
    Action σ Unit :=
  let entityType := identity.entityType
  if entityType = observer.tracked ∧ observer.automatic then
    match operation with
    | .deleted => observer.indexes.dispatch entityType (.idOnly identity.id) operation
    | .created | .changed => do
      let record ← observer.store.fetch entityType identity.id
      observer.indexes.dispatch entityType record operation
  else
    .tell .debug "Skipping automatic indexing" [("entity_type", .text entityType.tag)]

/-- The observer as a listener. -/
def listener (observer : Observer σ) : Listener σ := ⟨observer.notify⟩

end Observer

end CatalogSync
