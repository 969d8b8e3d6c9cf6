/-
**What a store of record offers.**

* `IdScope` — which records are listed.
* `RecordStore σ` — a store of record that lives in a state `σ`.
* `RecordStore.detached` — the store of a synchroniser that has none; every call fails.
* `RecordStore.on` — a store that lives in a part of a larger state.
-/

import CatalogSync.Action
import CatalogSync.Record

namespace CatalogSync

/-- Which records are listed. -/
inductive IdScope where
  | notDeleted
  | active
  deriving DecidableEq, Repr

/-- Whether records in a state are listed. -/
def IdScope.includes : IdScope → EntityState → Bool
  | .notDeleted, state => state != .deleted
  | .active, state => state == .active

/-- A store of record. -/
structure RecordStore (σ : Type) where
  /-- The record with a given id or name, as it is after the last transaction. -/
  fetch : EntityType → (reference : String) → Action σ Record
  /-- The ids of all records of a type in a scope. -/
  enumerate : EntityType → IdScope → Action σ (List String)
  /-- The summary of the record with a given id. -/
  summarize : EntityType → (id : String) → Action σ (Option RecordSummary)
  /-- Ends the session of the store. -/
  commit : Action σ Unit

namespace RecordStore

variable {σ τ : Type}

/-- The store that lives in a part of a larger state. -/
def on (lens : Lens σ τ) (store : RecordStore τ) : RecordStore σ where
  fetch entityType reference := (store.fetch entityType reference).on lens
  enumerate entityType scope := (store.enumerate entityType scope).on lens
  summarize entityType id := (store.summarize entityType id).on lens
  commit := store.commit.on lens

/-- The failure of every call on a store that is not there. -/
def unavailable : SearchError := .store "No store of record is configured"

/-- The store of a synchroniser that has none. -/
def detached : RecordStore σ where
  fetch _ _ := .fail unavailable
  enumerate _ _ := .fail unavailable
  summarize _ _ := .fail unavailable
  commit := .fail unavailable

end RecordStore

end CatalogSync
