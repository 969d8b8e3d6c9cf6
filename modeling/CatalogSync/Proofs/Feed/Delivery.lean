/-
**What a delivered change does to the index.**

* `deliver` — the documents that readers see after one change is brought to the index: a created
  or changed dataset stands there as the store holds it, no document answers to the id of a
  deleted one, and other entities have no part in it.
* `Deliverable` — the store has the record of the change under its own id.
* **`effect_publish`** — if nothing is pending and nothing refused, publishing changes that can be
  delivered comes to its end and shows all of them, one after the other.
* `get?_deliverAll_upserts`, `get?_deliverAll_removals` — what a row of created and changed
  entities, and then a row of deleted ones, does to every look-up.
-/

import CatalogSync.Proofs.Feed.Order
import CatalogSync.Proofs.Workbench

namespace CatalogSync

/-- A created or changed record that the index accepts is written and committed at once. -/
theorem MemoryIndex.effect_applyChange_upsert {index : MemoryIndex} {record : Record} {id : String}
    (accepted : index.accept record = .ok id) {operation : ChangeOperation}
    (alive : operation ≠ .deleted) :
    ∃ call, (Registry.applyChange writer record operation).effect index =
      (.ok (), (index.noted call).written record true) := by
  cases operation with
  | created =>
    refine ⟨.insert (record.id?.getD ""), ?_⟩
    refine (effect_insert record index).trans ?_
    rw [accepted]
    rfl
  | changed =>
    refine ⟨.update (record.id?.getD "") false, ?_⟩
    refine (effect_update record false index).trans ?_
    rw [accepted]
    rfl
  | deleted => exact absurd rfl alive

namespace Workbench

/-! ### One change -/

/-- What readers see after one change is brought to the index. -/
def deliver (store : MemoryStore) (documents : SortedMap Record) :
    Identity × ChangeOperation → SortedMap Record
  | (identity, operation) =>
    if identity.entityType = .package then
      match operation with
      | .deleted => documents.filter fun _ record => !record.answersTo identity.id
      | .created | .changed =>
        match store.fetch? .package identity.id with
        | .ok record => documents.insert identity.id record
        | .error _ => documents
    else documents

theorem deliver_upsert {store : MemoryStore} (documents : SortedMap Record) {id : String}
    {record : Record} (found : store.fetch? .package id = .ok record)
    {operation : ChangeOperation} (alive : operation ≠ .deleted) :
    deliver store documents (⟨.package, id⟩, operation) = documents.insert id record := by
  cases operation with
  | created => simp only [deliver, if_true, found]
  | changed => simp only [deliver, if_true, found]
  | deleted => exact absurd rfl alive

theorem deliver_foreign (store : MemoryStore) (documents : SortedMap Record) {identity : Identity}
    (foreign : identity.entityType ≠ .package) (operation : ChangeOperation) :
    deliver store documents (identity, operation) = documents := if_neg foreign

/-- Whether a created or changed dataset is found in the store under its own id. -/
def Deliverable (store : MemoryStore) : Identity × ChangeOperation → Prop
  | (identity, operation) =>
    identity.entityType = .package → operation ≠ .deleted →
      ∃ record, store.fetch? .package identity.id = .ok record ∧ record.id? = some identity.id

/-- Nothing is pending, readers see the given documents, and the rest is as it was. -/
structure Shows (bench : Workbench) (documents : SortedMap Record) (reached : Workbench) :
    Prop where
  store : reached.store = bench.store
  refused : reached.index.refused = bench.index.refused
  pending : reached.index.pending = .empty
  visible : reached.index.visible = documents

theorem Shows.refl {bench : Workbench} (nothing : bench.index.pending = .empty) :
    bench.Shows bench.index.visible bench := ⟨rfl, rfl, nothing, rfl⟩

theorem writer_registered : observer.indexes.get? .package = some writer := rfl

theorem applyChange_writer (record : Record) (operation : ChangeOperation) :
    Registry.applyChange writer record operation =
      (Registry.applyChange MemoryIndex.writer record operation).on indexPart := by
  cases operation with
  | created => rfl
  | changed => rfl
  | deleted => rfl

section Change

variable {bench : Workbench} (nothing : bench.index.pending = .empty)
include nothing

/-- A dataset that is created or changed stands in the index as the store holds it. -/
theorem effect_notify_upsert (accepting : bench.index.refused = []) {id : String} {record : Record}
    (found : bench.store.fetch? .package id = .ok record) (known : record.id? = some id)
    {operation : ChangeOperation} (alive : operation ≠ .deleted) :
    ∃ reached, (observer.notify ⟨.package, id⟩ operation).effect bench = (.ok (), reached) ∧
      bench.Shows (bench.index.visible.insert id record) reached := by
  have accepted : bench.index.accept record = .ok id := MemoryIndex.accept_of_open accepting known
  obtain ⟨call, applied⟩ := MemoryIndex.effect_applyChange_upsert accepted alive
  have dispatched : (observer.indexes.dispatch .package record operation).effect
      (bench.asking id) =
        (.ok (), { bench.asking id with
          index := (bench.index.noted call).written record true }) := by
    refine (Registry.effect_dispatch writer_registered record operation _).trans ?_
    have same : (bench.asking id).index = bench.index := rfl
    rw [applyChange_writer, effect_on_index, same, applied]
  have asked := effect_fetch .package id bench
  rw [found] at asked
  have fetches : observer.notify ⟨.package, id⟩ operation =
      records.fetch .package id >>= fun fetched =>
        observer.indexes.dispatch .package fetched operation :=
    Observer.notify_upsert rfl rfl alive
  have clean : (bench.index.noted call).pending = .empty := nothing
  rw [fetches]
  exact ⟨_, (Action.effect_bind_of_ok asked _).trans dispatched, rfl,
    MemoryIndex.refused_written _ record true, MemoryIndex.pending_written clean record,
    MemoryIndex.visible_written clean accepted⟩

/-- No document answers to the id of a dataset that is deleted. -/
theorem effect_notify_deleted (id : String) :
    ∃ reached, (observer.notify ⟨.package, id⟩ .deleted).effect bench = (.ok (), reached) ∧
      bench.Shows (bench.index.visible.filter fun _ record => !record.answersTo id) reached := by
  have applied : (Registry.applyChange MemoryIndex.writer (.idOnly id) .deleted).effect
      bench.index = (.ok (), (bench.index.noted (.remove id)).without id) := by
    unfold Registry.applyChange
    rw [Record.id?_idOnly]
    exact MemoryIndex.effect_remove (Record.id?_idOnly id) bench.index
  have dispatched : (observer.notify ⟨.package, id⟩ .deleted).effect bench =
      (.ok (), { bench with index := (bench.index.noted (.remove id)).without id }) := by
    refine (Registry.effect_dispatch writer_registered (.idOnly id) .deleted bench).trans ?_
    rw [applyChange_writer, effect_on_index, applied]
  exact ⟨_, dispatched, rfl, rfl, MemoryIndex.pending_without (by exact nothing) id, rfl⟩

/-- What happens to other entities goes unnoticed. -/
theorem effect_notify_foreign {identity : Identity} (foreign : identity.entityType ≠ .package)
    (operation : ChangeOperation) :
    ∃ reached, (observer.notify identity operation).effect bench = (.ok (), reached) ∧
      bench.Shows bench.index.visible reached := by
  have skipped : (observer.notify identity operation).effect bench = (.ok (), bench) := by
    unfold Observer.notify
    rw [if_neg (fun both => foreign both.1)]
    rfl
  exact ⟨bench, skipped, Shows.refl nothing⟩

/-- **A change that can be delivered is shown.** -/
theorem effect_notify (accepting : bench.index.refused = []) {identity : Identity}
    {operation : ChangeOperation} (deliverable : Deliverable bench.store (identity, operation)) :
    ∃ reached, (observer.notify identity operation).effect bench = (.ok (), reached) ∧
      bench.Shows (deliver bench.store bench.index.visible (identity, operation)) reached := by
  obtain ⟨entityType, id⟩ := identity
  by_cases dataset : entityType = .package
  · subst dataset
    by_cases gone : operation = .deleted
    · subst gone
      exact effect_notify_deleted nothing id
    · obtain ⟨record, found, known⟩ := deliverable rfl gone
      rw [deliver_upsert _ found gone]
      exact effect_notify_upsert nothing accepting found known gone
  · rw [deliver_foreign _ _ dataset]
    exact effect_notify_foreign nothing dataset operation

end Change

/-! ### All changes of a transaction -/

/-- What readers see after changes were brought to the index one after the other. -/
def deliverAll (store : MemoryStore) (documents : SortedMap Record)
    (entries : List (Identity × ChangeOperation)) : SortedMap Record :=
  entries.foldl (deliver store) documents

/-- **Changes that can be delivered are shown one after the other.** -/
theorem effect_notifyEach {entries : List (Identity × ChangeOperation)} {bench : Workbench}
    (nothing : bench.index.pending = .empty) (accepting : bench.index.refused = [])
    (deliverable : ∀ entry ∈ entries, Deliverable bench.store entry) :
    ∃ reached, (Feed.inTurn (entries.map fun entry =>
        observer.notify entry.1 entry.2)).effect bench = (.ok (), reached) ∧
      bench.Shows (deliverAll bench.store bench.index.visible entries) reached := by
  induction entries generalizing bench with
  | nil => exact ⟨bench, rfl, Shows.refl nothing⟩
  | cons entry rest ih =>
    obtain ⟨next, told, shows⟩ :=
      effect_notify nothing accepting (deliverable entry List.mem_cons_self)
    obtain ⟨reached, ran, last⟩ := ih shows.pending (shows.refused.trans accepting) (by
      rw [shows.store]
      exact fun other member => deliverable other (List.mem_cons_of_mem entry member))
    rw [shows.store, shows.visible] at last
    exact ⟨reached, (Action.effect_bind_of_ok told _).trans ran, last.store.trans shows.store,
      last.refused.trans shows.refused, last.pending, last.visible⟩

/-- **Publishing changes that can be delivered shows all of them.** -/
theorem effect_publish {ε : Type} [Entity ε] (changes : ChangeSet ε) {bench : Workbench}
    (nothing : bench.index.pending = .empty) (accepting : bench.index.refused = [])
    (deliverable : ∀ entry ∈ changes.deliveries, Deliverable bench.store entry) :
    ∃ reached, (feed.publish changes).effect bench = (.ok (), reached) ∧
      bench.Shows (deliverAll bench.store bench.index.visible changes.deliveries) reached := by
  obtain ⟨reached, ran, shows⟩ := effect_notifyEach nothing accepting deliverable
  refine ⟨reached, (Action.effect_bind_of_ok (Action.effect_tell _ _ _ bench) _).trans ?_, shows⟩
  have notifications : feed.notifications changes =
      changes.deliveries.map fun entry => observer.notify entry.1 entry.2 := by
    unfold Feed.notifications ChangeSet.deliveries
    rw [List.map_map]
    exact List.map_eq_flatMap.symm
  rw [notifications]
  exact ran

/-! ### What becomes of every look-up -/

section Lookup

variable (store : MemoryStore) (documents : SortedMap Record)

/-- A created or changed entity concerns the document under its own id. -/
theorem get?_deliver_upsert {entry : Identity × ChangeOperation} (alive : entry.2 ≠ .deleted)
    (deliverable : Deliverable store entry) (id : String) :
    (deliver store documents entry).get? id =
      if entry.1 = ⟨.package, id⟩ then (store.fetch? .package id).toOption
      else documents.get? id := by
  obtain ⟨⟨entityType, own⟩, operation⟩ := entry
  by_cases dataset : entityType = .package
  · subst dataset
    obtain ⟨record, found, -⟩ := deliverable rfl alive
    rw [deliver_upsert documents found alive, SortedMap.get?_insert]
    simp only [Identity.mk.injEq, true_and]
    by_cases same : own = id
    · rw [if_pos same, if_pos same, ← same, found]
      rfl
    · rw [if_neg same, if_neg same]
  · rw [deliver_foreign store documents dataset, if_neg fun same =>
      dataset (congrArg Identity.entityType same)]

/-- After a row of created and changed entities every dataset among them stands in the index as the
store holds it. -/
theorem get?_deliverAll_upserts {entries : List (Identity × ChangeOperation)}
    (alive : ∀ entry ∈ entries, entry.2 ≠ .deleted)
    (deliverable : ∀ entry ∈ entries, Deliverable store entry) (id : String) :
    (deliverAll store documents entries).get? id =
      if ⟨.package, id⟩ ∈ entries.map Prod.fst then (store.fetch? .package id).toOption
      else documents.get? id := by
  induction entries generalizing documents with
  | nil => rfl
  | cons entry rest ih =>
    have later := ih (deliver store documents entry)
      (fun other member => alive other (List.mem_cons_of_mem entry member))
      (fun other member => deliverable other (List.mem_cons_of_mem entry member))
    refine later.trans ?_
    rw [get?_deliver_upsert store documents (alive entry List.mem_cons_self)
      (deliverable entry List.mem_cons_self), List.map_cons]
    by_cases first : entry.1 = ⟨.package, id⟩
    · simp [first]
    · have among : (⟨.package, id⟩ : Identity) ∈ entry.1 :: rest.map Prod.fst ↔
          ⟨.package, id⟩ ∈ rest.map Prod.fst := by
        rw [List.mem_cons, or_iff_right fun same => first same.symm]
      simp only [if_neg first, among]

/-- Whether the record answers to the id of a dataset of a list. -/
def answersToAny (removed : List Identity) (record : Record) : Bool :=
  removed.any fun identity => identity.entityType == .package && record.answersTo identity.id

/-- After a row of deleted entities no document answers to the id of a dataset among them. -/
theorem get?_deliverAll_removals (removed : List Identity) (id : String) :
    (deliverAll store documents (removed.map (·, .deleted))).get? id =
      (documents.get? id).filter fun record => !answersToAny removed record := by
  induction removed generalizing documents with
  | nil =>
    show documents.get? id = _
    cases documents.get? id <;> rfl
  | cons identity rest ih =>
    refine (ih (deliver store documents (identity, .deleted))).trans ?_
    have first : (deliver store documents (identity, .deleted)).get? id =
        (documents.get? id).filter fun record =>
          !(identity.entityType == .package && record.answersTo identity.id) := by
      by_cases dataset : identity.entityType = .package
      · have same : (identity.entityType == .package) = true := beq_iff_eq.mpr dataset
        unfold deliver
        simp only [if_pos dataset, SortedMap.get?_filter, same, Bool.true_and]
      · have apart : (identity.entityType == .package) = false := beq_eq_false_iff_ne.mpr dataset
        rw [deliver_foreign store documents dataset]
        simp only [apart, Bool.false_and, Bool.not_false]
        cases documents.get? id <;> rfl
    rw [first]
    unfold answersToAny
    cases documents.get? id with
    | none => rfl
    | some record =>
      cases hit : identity.entityType == .package && record.answersTo identity.id with
      | true => simp only [Option.filter_some, List.any_cons, hit, Bool.not_true, Bool.true_or,
          Bool.false_eq_true, if_false, Option.filter_none]
      | false => simp only [Option.filter_some, List.any_cons, hit, Bool.not_false, Bool.false_or,
          if_true]

/-- **What readers see under an id after the changes of a transaction were brought to the index.**
-/
theorem get?_deliverAll {ε : Type} [Entity ε] {changes : ChangeSet ε}
    (deliverable : ∀ entry ∈ changes.deliveries, Deliverable store entry) (id : String) :
    (deliverAll store documents changes.deliveries).get? id =
      (if ⟨.package, id⟩ ∈ changes.upserted then (store.fetch? .package id).toOption
        else documents.get? id).filter fun record => !answersToAny changes.removed record := by
  rw [changes.deliveries_eq] at deliverable ⊢
  have parts : deliverAll store documents (changes.upserts ++ changes.removed.map (·, .deleted)) =
      deliverAll store (deliverAll store documents changes.upserts)
        (changes.removed.map (·, .deleted)) := List.foldl_append
  rw [parts, get?_deliverAll_removals, get?_deliverAll_upserts store documents
    (fun _ member => ChangeSet.alive_of_mem_upserts member)
    (fun entry member => deliverable entry (List.mem_append_left _ member)),
    changes.map_fst_upserts]

end Lookup

end Workbench

end CatalogSync
