/-
**An index in memory.**

* `MemoryIndex` — visible documents and pending ones, both under their ids. A commit puts the
  pending documents over the visible ones.
* `MemoryIndex.writer`, `MemoryIndex.reader` — the two sides of it.

It also notes every call and can be told to refuse the writes of given ids.
-/

import CatalogSync.Index

namespace CatalogSync

/-- A call on the writing side of an index. -/
inductive IndexCall where
  | insert (id : String)
  | update (id : String) (deferCommit : Bool)
  | remove (id : String)
  | clear
  | commit
  deriving DecidableEq, Repr

/-- Whether the call adds or replaces a document. -/
def IndexCall.isUpsert : IndexCall → Bool
  | .insert _ => true
  | .update .. => true
  | _ => false

/-- An index in memory. -/
structure MemoryIndex where
  /-- What readers see. -/
  visible : SortedMap Record
  /-- What the next commit puts over it. -/
  pending : SortedMap Record
  /-- The ids whose writes are refused. -/
  refused : List String
  /-- The calls so far. -/
  calls : List IndexCall
  deriving Inhabited

namespace MemoryIndex

/-- The index without documents. -/
def empty : MemoryIndex := ⟨.empty, .empty, [], []⟩

/-- The index that refuses to write documents with the id. -/
def refuse (index : MemoryIndex) (id : String) : MemoryIndex :=
  { index with refused := index.refused ++ [id] }

/-- The index after a further call is noted. -/
def noted (call : IndexCall) (index : MemoryIndex) : MemoryIndex :=
  { index with calls := index.calls ++ [call] }

/-- The index with the pending documents put over the visible ones. -/
def committed (index : MemoryIndex) : MemoryIndex :=
  { index with visible := index.visible.overlay index.pending, pending := .empty }

/-- The index without the documents that answer to the reference, visible or pending. -/
def without (reference : String) (index : MemoryIndex) : MemoryIndex :=
  let others : String → Record → Bool := fun _ record => !record.answersTo reference
  { index with visible := index.visible.filter others, pending := index.pending.filter others }

/-- The index without documents. -/
def cleared (index : MemoryIndex) : MemoryIndex :=
  { index with visible := .empty, pending := .empty }

/-- The index with a document added to the pending ones. -/
def holding (id : String) (record : Record) (index : MemoryIndex) : MemoryIndex :=
  { index with pending := index.pending.insert id record }

/-- The failure of a record that cannot be identified. -/
def missingId : SearchError := .indexWrite "Record has no id"

/-- The failure of a write that is refused. -/
def refusal (id : String) : SearchError := .indexWrite ("Injected write failure for " ++ id)

/-- Adds a document to the pending ones and makes them visible if told so. -/
def write (record : Record) (commit : Bool) : Action MemoryIndex Unit := do
  match record.id? with
  | none => .fail missingId
  | some id =>
    if ← .ask fun index => decide (id ∈ index.refused) then
      .fail (refusal id)
    else
      .change fun index =>
        let index := index.holding id record
        if commit then index.committed else index

/-- The writing side. -/
def writer : IndexWriter MemoryIndex where
  insert record := do
    .change (noted (.insert (record.id?.getD "")))
    write record true
  update record deferCommit := do
    .change (noted (.update (record.id?.getD "") deferCommit))
    write record (!deferCommit)
  remove record :=
    match record.id? with
    | none => .fail missingId
    | some id => do
      .change fun index => (index.noted (.remove id)).without id
      .tell .debug "Document removed from memory index" [("id", .text id)]
  clear := .change fun index => (index.noted .clear).cleared
  commit := .change fun index => (index.noted .commit).committed

/-- The visible document with a given id, or else the first one, by id, that answers to the
reference. -/
def find? (index : MemoryIndex) (reference : String) : Option Record :=
  (index.visible.get? reference).or
    (index.visible.values.find? fun record => record.answersTo reference)

/-- The ids of the visible documents in ascending order, all of them or a number of them at most. -/
def ids (index : MemoryIndex) (limit : Option Nat) : List String :=
  match limit with
  | none => index.visible.keys
  | some limit => index.visible.keys.take limit

/-- The reading side. -/
def reader : IndexReader MemoryIndex where
  ids limit := .ask fun index => index.ids limit
  find reference := .ask fun index => index.find? reference

/-- The number of calls that added or replaced a document or tried to. -/
def upserts (index : MemoryIndex) : Nat := (index.calls.filter IndexCall.isUpsert).length

end MemoryIndex

end CatalogSync
