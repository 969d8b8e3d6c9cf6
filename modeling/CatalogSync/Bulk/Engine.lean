/-
**Bulk operations on the index of one type.**

* `Engine` — a type with its index and its store of record.
* `Engine.rebuild` — indexes the selected records anew. A record that fails ends the run with an
  error that names it, or is noted and passed over if the run is forced. Every run that comes to its
  end commits the store of record.
* `Engine.check` — the active records that the index does not hold; nothing is changed.
* `Engine.find`, `Engine.clear`, `Engine.clearAll`, `Engine.commit` — looking at the index and
  changing it by hand.
-/

import CatalogSync.Bulk.Report
import CatalogSync.Registry
import CatalogSync.Store

namespace CatalogSync

/-- The index of one type and the records it is made from. -/
structure Engine (σ : Type) where
  entityType : EntityType
  index : IndexWriter σ
  documents : IndexReader σ
  store : RecordStore σ

/-- The stages of a rebuild. -/
inductive RebuildPhase where
  | enumerating
  | diffing
  | clearing
  | processing
  | committing
  | done
  | aborted
  deriving DecidableEq, Repr

/-- The name of a stage. -/
def RebuildPhase.name : RebuildPhase → String
  | .enumerating => "enumerating"
  | .diffing => "diffing"
  | .clearing => "clearing"
  | .processing => "processing"
  | .committing => "committing"
  | .done => "done"
  | .aborted => "aborted"

/-- How far a run over many records has come. -/
structure Tally where
  indexed : Nat
  failedIds : List String
  deriving DecidableEq, Repr, Inhabited

namespace Engine

variable {σ : Type}

/-- The engine for a type whose index is registered on both sides. Without a reader it fails. -/
def ofRegistries (entityType : EntityType) (writers : Registry (IndexWriter σ))
    (readers : Registry (IndexReader σ)) (store : RecordStore σ) : Action σ (Engine σ) := do
  let documents ← .ofExcept (readers.readerFor entityType)
  let index ← writers.writerFor entityType
  pure ⟨entityType, index, documents, store⟩

/-- Tells of a new stage. -/
def enter (phase : RebuildPhase) : Action σ Unit :=
  .tell .debug "Rebuild phase" [("phase", .text phase.name)]

/-- Tells of a record of a run, unless the run is quiet. -/
def announce (options : RebuildOptions) (current total : Nat) : Action σ Unit :=
  if options.quiet then pure ()
  else .tell .info "Indexing record" [("current", .number current), ("total", .number total)]

/-- Fetches a record and brings it to the index. -/
def reindex (engine : Engine σ) (deferCommit : Bool) (id : String) : Action σ Unit := do
  let record ← engine.store.fetch engine.entityType id
  engine.index.update record deferCommit

/-- Reindexes records one after the other. -/
def reindexEach (engine : Engine σ) (options : RebuildOptions) (deferCommit : Bool) (total : Nat) :
    (position : Nat) → Tally → List String → Action σ Tally
  | _, tally, [] => pure tally
  | position, tally, id :: rest => do
    announce options (position + 1) total
    match ← (engine.reindex deferCommit id).attempt with
    | .ok () =>
      engine.reindexEach options deferCommit total (position + 1)
        { tally with indexed := tally.indexed + 1 } rest
    | .error failure => do
      .tell .error "Error while indexing record"
        [("id", .text id), ("error", .text failure.message)]
      if options.force then
        engine.reindexEach options deferCommit total (position + 1)
          { tally with failedIds := tally.failedIds ++ [id] } rest
      else do
        enter .aborted
        .fail (.rebuild id failure.message)

/-- Reindexes a list of records and sums up. -/
def process (engine : Engine σ) (options : RebuildOptions) (deferCommit : Bool)
    (ids : List String) : Action σ RebuildSummary := do
  enter .processing
  let tally ← engine.reindexEach options deferCommit ids.length 0 ⟨0, []⟩ ids
  if tally.failedIds.isEmpty then pure ()
  else .tell .warn "Rebuild skipped failing records" [("failed", .number tally.failedIds.length)]
  pure ⟨ids.length, tally.indexed, tally.failedIds, .completed⟩

/-- The ids that the index does not hold, in their order. -/
def missingFromIndex (engine : Engine σ) (ids : List String) : Action σ (List String) := do
  let indexed ← engine.documents.ids none
  pure (ids.filter fun id => !indexed.contains id)

/-- Rebuilds one record: what the index holds under its id goes first, so that an outdated name
cannot leave a second document behind. -/
def rebuildOne (engine : Engine σ) (reference : String) : Action σ RebuildSummary := do
  let record ← engine.store.fetch engine.entityType reference
  .tell .info "Indexing single record"
    [("id", .text reference), ("name", .text (Text.quotedOption record.name?))]
  engine.index.remove record
  engine.index.insert record
  pure ⟨1, 1, [], .completed⟩

/-- Rebuilds given records; their documents become visible together at the end. -/
def rebuildMany (engine : Engine σ) (ids : List String) (options : RebuildOptions) :
    Action σ RebuildSummary := do
  let summary ← engine.process options true ids
  if options.deferCommit then pure () else engine.index.commit
  pure summary

/-- Rebuilds the records that are not deleted, or those of them that the index does not hold. -/
def rebuildAll (engine : Engine σ) (options : RebuildOptions) : Action σ RebuildSummary := do
  enter .enumerating
  let ids ← engine.store.enumerate engine.entityType .notDeleted
  if options.onlyMissing then do
    enter .diffing
    .tell .info "Indexing only missing records" []
    let missing ← engine.missingFromIndex ids
    if missing.isEmpty then do
      .tell .info "All records are already indexed" []
      pure .nothingMissing
    else
      engine.process options options.deferCommit missing
  else do
    .tell .info "Rebuilding the whole index" []
    if options.clearFirst then do
      enter .clearing
      engine.index.clear
      engine.process options options.deferCommit ids
    else
      engine.process options options.deferCommit ids

/-- The part of a rebuild that concerns the index. -/
def rebuildSelected (engine : Engine σ) (selector : Selector) (options : RebuildOptions) :
    Action σ RebuildSummary :=
  match selector with
  | .one reference => engine.rebuildOne reference
  | .many ids => engine.rebuildMany ids options
  | .all => engine.rebuildAll options

/-- Indexes the selected records anew. -/
def rebuild (engine : Engine σ) (selector : Selector) (options : RebuildOptions) :
    Action σ RebuildSummary := do
  .tell .info "Rebuilding search index" []
  let summary ← engine.rebuildSelected selector options
  enter .committing
  engine.store.commit
  enter .done
  .tell .info "Finished rebuilding search index"
    [("total", .number summary.total), ("indexed", .number summary.indexed),
      ("failed", .number summary.failed)]
  pure summary

/-- Makes pending writes visible. -/
def commit (engine : Engine σ) : Action σ Unit := do
  engine.index.commit
  .tell .info "Committed pending changes on the search index" []

/-- The summaries of records that are still in the store. -/
def summarizeEach (engine : Engine σ) : List String → Action σ (List RecordSummary)
  | [] => pure []
  | id :: rest => do
    match ← engine.store.summarize engine.entityType id with
    | some summary => do
      let summaries ← engine.summarizeEach rest
      pure (summary :: summaries)
    | none => do
      .tell .warn "Missing record vanished from the store during check" [("id", .text id)]
      engine.summarizeEach rest

/-- The active records that the index does not hold. -/
def check (engine : Engine σ) : Action σ CheckReport := do
  let active ← engine.store.enumerate engine.entityType .active
  let missingIds ← engine.missingFromIndex active
  let missing ← engine.summarizeEach missingIds
  .tell .info "Index check finished"
    [("total_active", .number active.length), ("missing", .number missing.length)]
  pure ⟨active.length, missing⟩

/-- The index's document for an id or a name. -/
def find (engine : Engine σ) (reference : String) : Action σ (Option Record) :=
  engine.documents.find reference

/-- Removes one record from the index. -/
def clear (engine : Engine σ) (reference : String) : Action σ Unit := do
  engine.index.remove (.idOnly reference)
  .tell .info "Cleared record from the search index" [("reference", .text reference)]

/-- Removes every document from the index. -/
def clearAll (engine : Engine σ) : Action σ Unit := do
  engine.index.clear
  .tell .info "Cleared the search index" []

end Engine

end CatalogSync
