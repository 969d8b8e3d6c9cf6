/-
**An index and a store of record in memory, side by side.**

* `Workbench` — the two of them, with a note of every reference that was fetched from the store.
* `Workbench.engine`, `Workbench.feed` — the engine for bulk operations on the two, and the feed
  whose only listener keeps the index up to date. `effect_wire` says that these are the parts of the
  synchroniser that is wired from the two.
* `document` — the document that reindexing a record brings to the index, or why there is none.
* `reindexed` — what reindexing one record leaves behind, whether it comes to an end or not
  (`effect_reindex`).
-/

import CatalogSync.Proofs.Index.Layers
import CatalogSync.Store.Memory
import CatalogSync.Synchronizer

namespace CatalogSync

/-- An index and a store of record in memory. -/
structure Workbench where
  index : MemoryIndex
  store : MemoryStore
  /-- The references that were fetched from the store, the latest last. -/
  fetched : List String

namespace Workbench

/-! ### The parts -/

/-- The index. -/
def indexPart : Lens Workbench MemoryIndex where
  get := Workbench.index
  set bench part := { bench with index := part }

/-- The store of record. -/
def storePart : Lens Workbench MemoryStore where
  get := Workbench.store
  set bench part := { bench with store := part }

/-- The workbench after a further fetch is noted. -/
def asking (bench : Workbench) (reference : String) : Workbench :=
  { bench with fetched := bench.fetched ++ [reference] }

/-- The writing side of the index. -/
def writer : IndexWriter Workbench := MemoryIndex.writer.on indexPart

/-- The reading side of the index. -/
def reader : IndexReader Workbench := MemoryIndex.reader.on indexPart

/-- The store of record, in front of which every fetch is noted. -/
def records : RecordStore Workbench :=
  { MemoryStore.store.on storePart with
    fetch := fun entityType reference => do
      .change fun bench => bench.asking reference
      (MemoryStore.store.fetch entityType reference).on storePart }

/-- The engine for bulk operations on records of a type. -/
def engine (entityType : EntityType) : Engine Workbench := ⟨entityType, writer, reader, records⟩

/-- The listener that brings every change of a dataset to the index. -/
def observer : Observer Workbench :=
  ⟨.package, true, records, Registry.empty.register .package writer⟩

/-- The feed to which only that listener listens. -/
def feed : Feed Workbench := Feed.empty.register observer.listener

/-- **The synchroniser wired from the two has this feed and this engine.** -/
theorem effect_wire (schema : SchemaSource Workbench) (bench : Workbench) :
    (Synchronizer.wire writer reader schema records true).effect bench =
      (.ok ⟨feed, Registry.empty.register .package writer, engine .package, schema⟩, bench) := rfl

/-! ### The store's side -/

/-- The workbench after the session of the store has ended. -/
def ended (bench : Workbench) : Workbench :=
  { bench with store := { bench.store with commits := bench.store.commits + 1 } }

/-- A fetch does what it does without the note, after the note is taken. -/
theorem effect_fetch_noted (entityType : EntityType) (reference : String) (bench : Workbench) :
    (records.fetch entityType reference).effect bench =
      ((MemoryStore.store.on storePart).fetch entityType reference).effect
        (bench.asking reference) :=
  Action.effect_bind_of_ok rfl _

theorem effect_fetch (entityType : EntityType) (reference : String) (bench : Workbench) :
    (records.fetch entityType reference).effect bench =
      (bench.store.fetch? entityType reference, bench.asking reference) := by
  have looked : (MemoryStore.store.fetch entityType reference).effect bench.store =
      (bench.store.fetch? entityType reference, bench.store) :=
    (Action.effect_bind_of_ok rfl _).trans (Action.effect_ofExcept _ _)
  rw [effect_fetch_noted]
  show (((MemoryStore.store.fetch entityType reference).effect bench.store).1,
    storePart.set _ ((MemoryStore.store.fetch entityType reference).effect bench.store).2) = _
  rw [looked]
  rfl

theorem effect_enumerate (entityType : EntityType) (scope : IdScope) (bench : Workbench) :
    (records.enumerate entityType scope).effect bench =
      (.ok (bench.store.listIds entityType scope), bench) := rfl

/-! ### The index's side -/

/-- An action on the index leaves everything else as it is. -/
theorem effect_on_index {α : Type} (action : Action MemoryIndex α) (bench : Workbench) :
    (action.on indexPart).effect bench =
      ((action.effect bench.index).1, { bench with index := (action.effect bench.index).2 }) := rfl

theorem effect_insert (record : Record) (bench : Workbench) :
    (writer.insert record).effect bench =
      ((bench.index.accept record).map fun _ => (),
        { bench with
          index := (bench.index.noted (.insert (record.id?.getD ""))).written record true }) := by
  show ((MemoryIndex.writer.insert record).on indexPart).effect bench = _
  rw [effect_on_index, MemoryIndex.effect_insert]

theorem effect_remove {record : Record} {id : String} (known : record.id? = some id)
    (bench : Workbench) :
    (writer.remove record).effect bench =
      (.ok (), { bench with index := (bench.index.noted (.remove id)).without id }) := by
  show ((MemoryIndex.writer.remove record).on indexPart).effect bench = _
  rw [effect_on_index, MemoryIndex.effect_remove known]

theorem effect_remove_of_nameless {record : Record} (nameless : record.id? = none)
    (bench : Workbench) :
    (writer.remove record).effect bench = (.error MemoryIndex.missingId, bench) := by
  show ((MemoryIndex.writer.remove record).on indexPart).effect bench = _
  rw [effect_on_index, MemoryIndex.effect_remove_of_nameless nameless]

theorem effect_ids (bench : Workbench) :
    (reader.ids none).effect bench = (.ok bench.index.visible.keys, bench) := rfl

/-! ### Reindexing one record -/

/-- The document that reindexing a record brings to the index, under its id, or why there is none:
the record cannot be fetched, or the index refuses it. -/
def document (bench : Workbench) (entityType : EntityType) (id : String) :
    Except SearchError (String × Record) :=
  match bench.store.fetch? entityType id with
  | .error failure => .error failure
  | .ok record => (bench.index.accept record).map fun key => (key, record)

/-- Whether reindexing a record fails. -/
def fails (bench : Workbench) (entityType : EntityType) (id : String) : Bool :=
  match bench.document entityType id with
  | .error _ => true
  | .ok _ => false

/-- The workbench after a record was reindexed, or could not be. -/
def reindexed (entityType : EntityType) (deferCommit : Bool) (bench : Workbench) (id : String) :
    Workbench :=
  match bench.store.fetch? entityType id with
  | .error _ => bench.asking id
  | .ok record =>
    { bench.asking id with
      index := (bench.index.noted (.update (record.id?.getD "") deferCommit)).written record
        !deferCommit }

section Cases

variable {bench : Workbench} {entityType : EntityType} {id : String}

/-- A document is the record that was fetched, under the id that the index accepts. -/
theorem document_eq_ok_iff {key : String} {record : Record} :
    bench.document entityType id = .ok (key, record) ↔
      bench.store.fetch? entityType id = .ok record ∧ bench.index.accept record = .ok key := by
  unfold document
  cases bench.store.fetch? entityType id with
  | error failure => simp
  | ok found =>
    constructor
    · intro brought
      cases kept : bench.index.accept found with
      | error failure =>
        simp only [kept] at brought
        cases brought
      | ok own =>
        simp only [kept] at brought
        cases brought
        exact ⟨rfl, kept⟩
    · rintro ⟨same, kept⟩
      cases same
      simp only [kept]
      rfl

/-- There is no document if the fetch fails or the index refuses what was fetched. -/
theorem document_eq_error_iff {failure : SearchError} :
    bench.document entityType id = .error failure ↔
      bench.store.fetch? entityType id = .error failure ∨
        ∃ record, bench.store.fetch? entityType id = .ok record ∧
          bench.index.accept record = .error failure := by
  unfold document
  cases bench.store.fetch? entityType id with
  | error problem => simp
  | ok found =>
    cases kept : bench.index.accept found with
    | error problem => simp [Except.map, kept]
    | ok own => simp [Except.map, kept]

theorem fails_eq_false_iff :
    bench.fails entityType id = false ↔ ∃ entry, bench.document entityType id = .ok entry := by
  unfold fails
  cases bench.document entityType id with
  | error failure => simp
  | ok entry => simp

theorem fails_eq_true_iff :
    bench.fails entityType id = true ↔
      ∃ failure, bench.document entityType id = .error failure := by
  unfold fails
  cases bench.document entityType id with
  | error failure => simp
  | ok entry => simp

end Cases

section Reindexing

variable (entityType : EntityType) (deferCommit : Bool) (bench : Workbench) (id : String)

theorem effect_reindex :
    ((engine entityType).reindex deferCommit id).effect bench =
      ((bench.document entityType id).map fun _ => (),
        bench.reindexed entityType deferCommit id) := by
  show (records.fetch entityType id >>= fun record =>
    (MemoryIndex.writer.update record deferCommit).on indexPart).effect bench = _
  have asked := effect_fetch entityType id bench
  cases found : bench.store.fetch? entityType id with
  | error failure =>
    rw [found] at asked
    unfold document reindexed
    rw [found]
    exact Action.effect_bind_of_error asked _
  | ok record =>
    rw [found] at asked
    have result : (bench.document entityType id).map (fun _ => ()) =
        (bench.index.accept record).map fun _ => () := by
      unfold document
      rw [found]
      show ((bench.index.accept record).map _).map _ = _
      cases bench.index.accept record with
      | error failure => rfl
      | ok key => rfl
    rw [result]
    refine (Action.effect_bind_of_ok asked _).trans ?_
    rw [effect_on_index, MemoryIndex.effect_update]
    unfold reindexed
    rw [found]
    rfl

@[simp]
theorem store_reindexed : (bench.reindexed entityType deferCommit id).store = bench.store := by
  unfold reindexed
  cases bench.store.fetch? entityType id with
  | error failure => rfl
  | ok record => rfl

@[simp]
theorem fetched_reindexed :
    (bench.reindexed entityType deferCommit id).fetched = bench.fetched ++ [id] := by
  unfold reindexed
  cases bench.store.fetch? entityType id with
  | error failure => rfl
  | ok record => rfl

@[simp]
theorem refused_reindexed :
    (bench.reindexed entityType deferCommit id).index.refused = bench.index.refused := by
  unfold reindexed
  cases bench.store.fetch? entityType id with
  | error failure => rfl
  | ok record => exact MemoryIndex.refused_written _ record _

/-- What a record comes to depends on the store and on the refused ids alone. -/
theorem document_congr {first second : Workbench} (stores : first.store = second.store)
    (refused : first.index.refused = second.index.refused) :
    first.document = second.document := by
  funext wantedType wanted
  unfold document
  rw [stores, MemoryIndex.accept_congr refused]

/-- Reindexing one record changes nothing about what any record comes to. -/
@[simp]
theorem document_reindexed :
    (bench.reindexed entityType deferCommit id).document = bench.document :=
  document_congr (store_reindexed entityType deferCommit bench id)
    (refused_reindexed entityType deferCommit bench id)

@[simp]
theorem fails_reindexed :
    (bench.reindexed entityType deferCommit id).fails = bench.fails := by
  funext wantedType wanted
  unfold fails
  rw [document_reindexed]

end Reindexing

section Layers

variable {bench : Workbench} {entityType : EntityType} {id : String}

/-- The index after a record that was fetched is reindexed. -/
theorem index_reindexed_of_ok {record : Record}
    (found : bench.store.fetch? entityType id = .ok record) (deferCommit : Bool) :
    (bench.reindexed entityType deferCommit id).index =
      (bench.index.noted (.update (record.id?.getD "") deferCommit)).written record
        !deferCommit := by
  unfold reindexed
  rw [found]

/-- The index after a record that cannot be fetched is to be reindexed. -/
theorem index_reindexed_of_error {failure : SearchError}
    (found : bench.store.fetch? entityType id = .error failure) (deferCommit : Bool) :
    (bench.reindexed entityType deferCommit id).index = bench.index := by
  unfold reindexed
  rw [found]
  rfl

/-- A record that fails changes neither layer of the index. -/
theorem layers_reindexed_of_error {failure : SearchError}
    (failed : bench.document entityType id = .error failure) (deferCommit : Bool) :
    (bench.reindexed entityType deferCommit id).index.visible = bench.index.visible ∧
      (bench.reindexed entityType deferCommit id).index.pending = bench.index.pending := by
  rcases document_eq_error_iff.mp failed with missing | ⟨record, found, refused⟩
  · rw [index_reindexed_of_error missing]
    exact ⟨rfl, rfl⟩
  · have stays : (bench.index.noted (.update (record.id?.getD "") deferCommit)).accept record =
        .error failure := refused
    rw [index_reindexed_of_ok found, MemoryIndex.written_of_error stays]
    exact ⟨rfl, rfl⟩

/-- A record that is reindexed joins the settled documents under its id. -/
theorem settled_reindexed_of_ok {key : String} {record : Record}
    (brought : bench.document entityType id = .ok (key, record)) (deferCommit : Bool) :
    (bench.reindexed entityType deferCommit id).index.settled =
      bench.index.settled.insert key record := by
  obtain ⟨found, kept⟩ := document_eq_ok_iff.mp brought
  have joins : (bench.index.noted (.update (record.id?.getD "") deferCommit)).accept record =
      .ok key := kept
  rw [index_reindexed_of_ok found, MemoryIndex.settled_written joins, MemoryIndex.settled_noted]

end Layers

end Workbench

end CatalogSync
