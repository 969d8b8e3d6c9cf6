/-
**A store of record in memory.**

* `MemoryStore` — records in the order in which they first came, each type and id once.
* `MemoryStore.put`, `MemoryStore.setState` — changing it.
* `MemoryStore.store` — reading it through the interface of stores of record. A reference finds the
  first record, in that order, that has it as its id or as its name.

It also counts commits and can be told to fail the fetches of given references.
-/

import CatalogSync.Store

namespace CatalogSync

/-- A record with what the store knows about it. -/
structure StoredRecord where
  entityType : EntityType
  record : Record
  state : EntityState
  modified : Option Time.Instant
  deriving Inhabited

namespace StoredRecord

/-- The id of the record. -/
def id (stored : StoredRecord) : String := stored.record.id?.getD ""

/-- Whether the record has the type and the id. -/
def isAt (stored : StoredRecord) (entityType : EntityType) (id : String) : Bool :=
  stored.entityType == entityType && stored.id == id

/-- Whether the record has the type, and the reference as its id or its name. -/
def answersTo (stored : StoredRecord) (entityType : EntityType) (reference : String) : Bool :=
  stored.entityType == entityType &&
    (stored.id == reference || stored.record.name? == some reference)

/-- The summary of the record. -/
def summary (stored : StoredRecord) : RecordSummary :=
  ⟨stored.id, stored.record.name?.getD "", stored.modified⟩

end StoredRecord

/-- A store of record in memory. -/
structure MemoryStore where
  records : List StoredRecord
  /-- The references whose fetches fail. -/
  failing : List String
  /-- How often the session was ended. -/
  commits : Nat
  deriving Inhabited

namespace MemoryStore

/-- The store without records. -/
def empty : MemoryStore := ⟨[], [], 0⟩

/-- Replaces the first member of a list that passes a test, if there is one. -/
def replaceFirst (test : StoredRecord → Bool) (replacement : StoredRecord → StoredRecord) :
    List StoredRecord → List StoredRecord
  | [] => []
  | stored :: rest =>
    if test stored then replacement stored :: rest
    else stored :: replaceFirst test replacement rest

/-- The store with a record put into it, in place of the one with its type and id if there is one
and at the end otherwise. A record without an id is not kept. -/
def put (store : MemoryStore) (entityType : EntityType) (record : Record) (state : EntityState)
    (modified : Option Time.Instant) : MemoryStore :=
  match record.id? with
  | none => store
  | some id =>
    let stored : StoredRecord := ⟨entityType, record, state, modified⟩
    if store.records.any (·.isAt entityType id) then
      { store with records := replaceFirst (·.isAt entityType id) (fun _ => stored) store.records }
    else
      { store with records := store.records ++ [stored] }

/-- The store with an active dataset put into it, modified at the given instant. -/
def putPackage (store : MemoryStore) (record : Record) (now : Time.Instant) : MemoryStore :=
  store.put .package record .active (some now)

/-- The store with another state for the record with a type and an id, if there is one. -/
def setState (store : MemoryStore) (entityType : EntityType) (id : String) (state : EntityState) :
    MemoryStore :=
  { store with
    records :=
      replaceFirst (·.isAt entityType id) (fun stored => { stored with state }) store.records }

/-- The store in which fetching the reference fails. -/
def failFetch (store : MemoryStore) (reference : String) : MemoryStore :=
  { store with failing := store.failing ++ [reference] }

/-- The record with a given id or name. -/
def fetch? (store : MemoryStore) (entityType : EntityType) (reference : String) :
    Except SearchError Record :=
  if reference ∈ store.failing then
    .error (.store ("Injected fetch failure for " ++ reference))
  else
    match store.records.find? (·.answersTo entityType reference) with
    | some stored => .ok stored.record
    | none => .error (.notFound (entityType.tag ++ " " ++ reference))

/-- The ids of the records of a type in a scope, in the order of the store. -/
def listIds (store : MemoryStore) (entityType : EntityType) (scope : IdScope) : List String :=
  (store.records.filter fun stored =>
    stored.entityType == entityType && scope.includes stored.state).map StoredRecord.id

/-- The summary of the record with a type and an id. -/
def summary? (store : MemoryStore) (entityType : EntityType) (id : String) :
    Option RecordSummary :=
  (store.records.find? (·.isAt entityType id)).map StoredRecord.summary

/-- The store of record that the memory holds. -/
def store : RecordStore MemoryStore where
  fetch entityType reference := do
    .ofExcept (← .ask fun store => store.fetch? entityType reference)
  enumerate entityType scope := .ask fun store => store.listIds entityType scope
  summarize entityType id := .ask fun store => store.summary? entityType id
  commit := .change fun store => { store with commits := store.commits + 1 }

end MemoryStore

end CatalogSync
