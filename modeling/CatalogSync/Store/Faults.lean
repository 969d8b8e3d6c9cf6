/-
**Failures of a store, on demand.**

* `StoreCall` — the calls that can be made to fail.
* `StoreFaults` — the calls that fail at present, and the records that have vanished although they
  are still listed.
* `RecordStore.withFaults` — a store in front of which the faults are checked.
-/

import CatalogSync.Store

namespace CatalogSync

/-- The calls that can be made to fail. -/
inductive StoreCall where
  | commit
  | enumerate
  | summarize
  deriving DecidableEq, Repr

/-- The name of a call. -/
def StoreCall.name : StoreCall → String
  | .commit => "commit"
  | .enumerate => "enumerate"
  | .summarize => "summarize"

instance : Named StoreCall where
  members := [.commit, .enumerate, .summarize]
  name := StoreCall.name

/-- What goes wrong at present. -/
structure StoreFaults where
  failing : List StoreCall
  /-- The ids of records without a summary. -/
  vanished : List String
  deriving DecidableEq, Repr, Inhabited

namespace StoreFaults

/-- Nothing goes wrong. -/
def none : StoreFaults := ⟨[], []⟩

/-- The faults after a call starts to fail, or ceases to. -/
def setFailing (faults : StoreFaults) (call : StoreCall) (active : Bool) : StoreFaults :=
  let others := faults.failing.filter (· != call)
  { faults with failing := if active then call :: others else others }

/-- The faults after a record vanishes, or comes back. -/
def setVanished (faults : StoreFaults) (id : String) (active : Bool) : StoreFaults :=
  let others := faults.vanished.filter (· != id)
  { faults with vanished := if active then id :: others else others }

end StoreFaults

namespace RecordStore

variable {σ : Type}

/-- Fails if the call is one of those that fail at present. -/
def ensureSound (faults : Lens σ StoreFaults) (call : StoreCall) : Action σ Unit := do
  if ← .ask fun state => decide (call ∈ (faults.get state).failing) then
    .fail (.store ("Injected " ++ call.name ++ " failure"))
  else
    pure ()

/-- The store in front of which faults are checked. -/
def withFaults (faults : Lens σ StoreFaults) (store : RecordStore σ) : RecordStore σ where
  fetch := store.fetch
  enumerate entityType scope := do
    ensureSound faults .enumerate
    store.enumerate entityType scope
  summarize entityType id := do
    ensureSound faults .summarize
    if ← .ask fun state => decide (id ∈ (faults.get state).vanished) then pure none
    else store.summarize entityType id
  commit := do
    ensureSound faults .commit
    store.commit

end RecordStore

end CatalogSync
