/-
**What an index offers.**

* `IndexWriter σ` — the writing side of an index that lives in a state `σ`. Writes may be held back
  until the next commit.
* `IndexReader σ` — the reading side.
* `IndexWriter.discarding` — the writer for types that nobody indexes; it accepts everything and
  keeps nothing.
* `IndexWriter.on`, `IndexReader.on` — an index that lives in a part of a larger state.
-/

import CatalogSync.Action
import CatalogSync.Record

namespace CatalogSync

/-- The writing side of an index. -/
structure IndexWriter (σ : Type) where
  /-- Adds a document and makes all writes so far visible. -/
  insert : Record → Action σ Unit
  /-- Adds or replaces a document and, unless told to defer it, makes all writes so far visible. -/
  update : Record → (deferCommit : Bool) → Action σ Unit
  /-- Removes the documents that have the record's id as their id or name. -/
  remove : Record → Action σ Unit
  /-- Removes all documents. -/
  clear : Action σ Unit
  /-- Makes all writes so far visible. -/
  commit : Action σ Unit

/-- The reading side of an index. Only visible documents are read. -/
structure IndexReader (σ : Type) where
  /-- The ids of all documents, or of a number of them at most. -/
  ids : (limit : Option Nat) → Action σ (List String)
  /-- The document with a given id or name. -/
  find : (reference : String) → Action σ (Option Record)

namespace IndexWriter

variable {σ τ : Type}

/-- The writer of an index that lives in a part of a larger state. -/
def on (lens : Lens σ τ) (writer : IndexWriter τ) : IndexWriter σ where
  insert record := (writer.insert record).on lens
  update record deferCommit := (writer.update record deferCommit).on lens
  remove record := (writer.remove record).on lens
  clear := writer.clear.on lens
  commit := writer.commit.on lens

/-- Tells of a write that goes nowhere. -/
def discard (call : String) (record : Record) : Action σ Unit :=
  .tell .debug ("Discarding " ++ call ++ " for unindexed type")
    [("id", .text (Text.quotedOption record.id?))]

/-- The writer for types that nobody indexes. -/
def discarding : IndexWriter σ where
  insert := discard "insert"
  update record _ := discard "update" record
  remove := discard "remove"
  clear := pure ()
  commit := pure ()

end IndexWriter

/-- The reader of an index that lives in a part of a larger state. -/
def IndexReader.on {σ τ : Type} (lens : Lens σ τ) (reader : IndexReader τ) : IndexReader σ where
  ids limit := (reader.ids limit).on lens
  find reference := (reader.find reference).on lens

end CatalogSync
