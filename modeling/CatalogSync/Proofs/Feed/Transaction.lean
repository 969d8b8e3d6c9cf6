/-
**Transactions on the store of record.**

* `Mutation` — one step of a transaction: a dataset is put into the store or gets another state,
  or something happens that is no concern of the index. `Mutation.Permitted` says when it may
  happen.
* `Session` — the store and the changes recorded so far; `Session.step` is one more mutation.
* `Session.Tracks` — what the recorded changes say about the way from the store at the start to
  the store as it is now: created and changed datasets are there and not deleted, deleted ones are
  there, and all others are as they were.
* **`Session.tracks_run`** — this is so after every transaction, because every mutation keeps it
  so (`Session.tracks_step`).

A dataset that is recorded as deleted need not be deleted in the end: later mutations may bring it
back, and then they are not recorded.
-/

import CatalogSync.Proofs.Feed.Merge
import CatalogSync.Proofs.Store.Holdings

namespace CatalogSync

/-- One step of a transaction, with the entity that is recorded. -/
inductive Mutation (ε : Type) where
  /-- A dataset is put into the store. -/
  | put (entity : ε) (record : Record) (state : EntityState) (modified : Option Time.Instant)
  /-- A dataset of the store gets another state. -/
  | setState (entity : ε) (state : EntityState)
  /-- The collections of an entity change, and nothing else. -/
  | collections (entity : ε)
  /-- Something happens to an entity that is no dataset. -/
  | elsewhere (entity : ε) (operation : ChangeOperation)

/-- A transaction under way. -/
structure Session (ε : Type) where
  store : MemoryStore
  changes : ChangeSet ε

variable {ε : Type} [Entity ε]

namespace ChangeSet

/-- Records that a dataset has got a state, given whether the store held it before. -/
def recordState (changes : ChangeSet ε) (held : Bool) (entity : ε) (state : EntityState) :
    ChangeSet ε :=
  if state = .deleted then changes.recordDeleted entity
  else if held then changes.recordChanged entity .attributes
  else changes.recordCreated entity

/-- Records that something happened to an entity. -/
def recordOperation (changes : ChangeSet ε) (entity : ε) : ChangeOperation → ChangeSet ε
  | .created => changes.recordCreated entity
  | .changed => changes.recordChanged entity .attributes
  | .deleted => changes.recordDeleted entity

variable {changes : ChangeSet ε}

theorem Merged.recordState (merged : changes.Merged) (held : Bool) (entity : ε)
    (state : EntityState) : (changes.recordState held entity state).Merged := by
  unfold ChangeSet.recordState
  split
  · exact merged.recordDeleted entity
  · split
    · exact merged.recordChanged entity
    · exact merged.recordCreated entity

theorem mem_upserted_recordState (merged : changes.Merged) (held : Bool) (entity : ε)
    (state : EntityState) (wanted : Identity) :
    wanted ∈ (changes.recordState held entity state).upserted ↔
      if state = .deleted then wanted ∈ changes.upserted ∧ wanted ≠ Entity.identity entity
      else wanted ∈ changes.upserted ∨
        wanted = Entity.identity entity ∧ Entity.identity entity ∉ changes.removed := by
  unfold recordState
  split
  · exact mem_upserted_recordDeleted merged entity wanted
  · split
    · exact mem_upserted_recordChanged merged entity wanted
    · exact mem_upserted_recordCreated merged entity wanted

theorem mem_removed_recordState (held : Bool) (entity : ε) (state : EntityState)
    (wanted : Identity) :
    wanted ∈ (changes.recordState held entity state).removed ↔
      wanted ∈ changes.removed ∨ state = .deleted ∧ wanted = Entity.identity entity := by
  unfold recordState
  split
  · rename_i deleted
    rw [mem_removed_recordDeleted, and_iff_right deleted]
  · rename_i alive
    split
    · simp [alive]
    · simp [alive]

theorem Merged.recordOperation (merged : changes.Merged) (entity : ε)
    (operation : ChangeOperation) : (changes.recordOperation entity operation).Merged := by
  cases operation with
  | created => exact merged.recordCreated entity
  | changed => exact merged.recordChanged entity
  | deleted => exact merged.recordDeleted entity

/-- What happens to one entity is not recorded about another. -/
theorem mem_recordOperation_of_ne (merged : changes.Merged) {entity : ε} {wanted : Identity}
    (apart : wanted ≠ Entity.identity entity) (operation : ChangeOperation) :
    (wanted ∈ (changes.recordOperation entity operation).upserted ↔ wanted ∈ changes.upserted) ∧
      (wanted ∈ (changes.recordOperation entity operation).removed ↔
        wanted ∈ changes.removed) := by
  cases operation with
  | created => simp [recordOperation, mem_upserted_recordCreated merged, apart]
  | changed => simp [recordOperation, mem_upserted_recordChanged merged, apart]
  | deleted =>
    simp [recordOperation, mem_upserted_recordDeleted merged, mem_removed_recordDeleted, apart]

end ChangeSet

/-- Whether a mutation may happen: a dataset that is put has an id, a dataset that gets another
state is there, and both are recorded under their own identities. -/
def Mutation.Permitted (store : MemoryStore) : Mutation ε → Prop
  | .put entity record _ _ =>
    record.id?.map (fun id => ⟨.package, id⟩) = some (Entity.identity entity)
  | .setState entity _ =>
    (Entity.identity entity).entityType = .package ∧ (store.at? (Entity.identity entity)).isSome
  | .collections _ => True
  | .elsewhere entity _ => (Entity.identity entity).entityType ≠ .package

instance (store : MemoryStore) (mutation : Mutation ε) : Decidable (mutation.Permitted store) :=
  match mutation with
  | .put entity record _ _ => inferInstanceAs (Decidable
      (record.id?.map (fun id => (⟨.package, id⟩ : Identity)) = some (Entity.identity entity)))
  | .setState entity _ => inferInstanceAs (Decidable
      ((Entity.identity entity).entityType = .package ∧
        (store.at? (Entity.identity entity)).isSome))
  | .collections _ => inferInstanceAs (Decidable True)
  | .elsewhere entity _ => inferInstanceAs (Decidable
      ((Entity.identity entity).entityType ≠ .package))

namespace Session

/-- The transaction with one more mutation, recorded by what it does: a dataset that ends up deleted
as deleted, one that was not there before as created, and any other as changed. -/
def step (session : Session ε) : Mutation ε → Session ε
  | .put entity record state modified =>
    let held := (session.store.at? (Entity.identity entity)).isSome
    ⟨session.store.put .package record state modified,
      session.changes.recordState held entity state⟩
  | .setState entity state =>
    ⟨session.store.setState .package (Entity.identity entity).id state,
      session.changes.recordState true entity state⟩
  | .collections entity => ⟨session.store, session.changes.recordChanged entity .collectionOnly⟩
  | .elsewhere entity operation =>
    ⟨session.store, session.changes.recordOperation entity operation⟩

/-- Whether all mutations of a transaction may happen, one after the other. -/
def Permitted : Session ε → List (Mutation ε) → Prop
  | _, [] => True
  | session, mutation :: rest =>
    mutation.Permitted session.store ∧ Permitted (session.step mutation) rest

instance decidablePermitted : (session : Session ε) → (transaction : List (Mutation ε)) →
    Decidable (session.Permitted transaction)
  | _, [] => inferInstanceAs (Decidable True)
  | session, mutation :: rest =>
    have := decidablePermitted (session.step mutation) rest
    inferInstanceAs (Decidable
      (mutation.Permitted session.store ∧ Permitted (session.step mutation) rest))

/-- The whole transaction on a store, from its start. -/
def run (store : MemoryStore) (transaction : List (Mutation ε)) : Session ε :=
  transaction.foldl step ⟨store, .empty⟩

/-- The recorded changes tell how the store came about from the one at the start. -/
structure Tracks (start : MemoryStore) (session : Session ε) : Prop where
  reachable : session.store.Reachable
  failing : session.store.failing = start.failing
  merged : session.changes.Merged
  upserted : ∀ id, ⟨.package, id⟩ ∈ session.changes.upserted →
    ∃ stored, session.store.at? ⟨.package, id⟩ = some stored ∧ stored.state ≠ .deleted
  removed : ∀ id, ⟨.package, id⟩ ∈ session.changes.removed →
    ∃ stored, session.store.at? ⟨.package, id⟩ = some stored
  untouched : ∀ id, ⟨.package, id⟩ ∉ session.changes.upserted →
    ⟨.package, id⟩ ∉ session.changes.removed →
    session.store.at? ⟨.package, id⟩ = start.at? ⟨.package, id⟩

theorem tracks_begin {store : MemoryStore} (reachable : store.Reachable) :
    (⟨store, .empty⟩ : Session ε).Tracks store where
  reachable := reachable
  failing := rfl
  merged := ChangeSet.merged_empty
  upserted _ member := by simp [ChangeSet.upserted, ChangeSet.empty] at member
  removed _ member := by simp [ChangeSet.removed, ChangeSet.empty] at member
  untouched _ _ _ := rfl

section Step

variable {start : MemoryStore} {session : Session ε} (tracks : session.Tracks start)
include tracks

/-- A dataset that gets a state is tracked: everything turns on whether the state is `deleted`. -/
theorem Tracks.recordState {entity : ε} {id : String} {store : MemoryStore} (stored : StoredRecord)
    (own : Entity.identity entity = ⟨.package, id⟩) (reachable : store.Reachable)
    (failing : store.failing = session.store.failing)
    (holds : ∀ other : Identity, store.at? other =
      if ⟨.package, id⟩ = other then some stored else session.store.at? other) (held : Bool) :
    (⟨store, session.changes.recordState held entity stored.state⟩ : Session ε).Tracks start := by
  have here : store.at? ⟨.package, id⟩ = some stored := by rw [holds, if_pos rfl]
  have elsewhere : ∀ wanted : String, wanted ≠ id →
      store.at? ⟨.package, wanted⟩ = session.store.at? ⟨.package, wanted⟩ := by
    intro wanted apart
    rw [holds, if_neg]
    exact fun same => apart (congrArg Identity.id same).symm
  refine ⟨reachable, failing.trans tracks.failing,
    tracks.merged.recordState held entity stored.state, fun wanted member => ?_,
    fun wanted member => ?_, fun wanted notUpserted notRemoved => ?_⟩
  · rw [ChangeSet.mem_upserted_recordState tracks.merged, own] at member
    by_cases same : wanted = id
    · subst same
      refine ⟨stored, here, fun deleted => ?_⟩
      rw [if_pos deleted] at member
      exact member.2 rfl
    · have before : ⟨.package, wanted⟩ ∈ session.changes.upserted := by
        split at member
        · exact member.1
        · exact member.resolve_right fun new => same (congrArg Identity.id new.1)
      rw [elsewhere wanted same]
      exact tracks.upserted wanted before
  · rw [ChangeSet.mem_removed_recordState, own] at member
    by_cases same : wanted = id
    · subst same
      exact ⟨stored, here⟩
    · rw [elsewhere wanted same]
      exact tracks.removed wanted
        (member.resolve_right fun new => same (congrArg Identity.id new.2))
  · rw [ChangeSet.mem_upserted_recordState tracks.merged, own] at notUpserted
    rw [ChangeSet.mem_removed_recordState, own, not_or] at notRemoved
    by_cases same : wanted = id
    · subst same
      have alive : stored.state ≠ .deleted := fun deleted => notRemoved.2 ⟨deleted, rfl⟩
      rw [if_neg alive] at notUpserted
      exact absurd (.inr ⟨rfl, notRemoved.1⟩) notUpserted
    · have before : ⟨.package, wanted⟩ ∉ session.changes.upserted := by
        intro member
        split at notUpserted
        · exact notUpserted ⟨member, fun new => same (congrArg Identity.id new)⟩
        · exact notUpserted (.inl member)
      rw [elsewhere wanted same]
      exact tracks.untouched wanted before notRemoved.1

/-- What happens to another entity leaves the datasets as they were. -/
theorem Tracks.recordOperation {entity : ε}
    (foreign : (Entity.identity entity).entityType ≠ .package) (operation : ChangeOperation) :
    (⟨session.store, session.changes.recordOperation entity operation⟩ : Session ε).Tracks
      start := by
  have apart : ∀ id : String, ⟨.package, id⟩ ≠ Entity.identity entity := fun id equal =>
    foreign (congrArg Identity.entityType equal).symm
  have same := fun id =>
    ChangeSet.mem_recordOperation_of_ne tracks.merged (apart id) operation
  refine ⟨tracks.reachable, tracks.failing, tracks.merged.recordOperation entity operation,
    fun id member => ?_, fun id member => ?_, fun id notUpserted notRemoved => ?_⟩
  · exact tracks.upserted id ((same id).1.mp member)
  · exact tracks.removed id ((same id).2.mp member)
  · exact tracks.untouched id (mt (same id).1.mpr notUpserted) (mt (same id).2.mpr notRemoved)

/-- **Every permitted mutation is tracked.** -/
theorem tracks_step (mutation : Mutation ε) (permitted : mutation.Permitted session.store) :
    (session.step mutation).Tracks start := by
  cases mutation with
  | put entity record state modified =>
    obtain ⟨id, known, same⟩ := Option.map_eq_some_iff.mp permitted
    have own : Entity.identity entity = ⟨.package, id⟩ := same.symm
    have failing : (session.store.put .package record state modified).failing =
        session.store.failing := by
      unfold MemoryStore.put
      rw [known]
      simp only
      split
      · rfl
      · rfl
    exact tracks.recordState ⟨.package, record, state, modified⟩ own
      (.put _ _ _ _ tracks.reachable) failing (MemoryStore.at?_put known state modified) _
  | setState entity state =>
    obtain ⟨dataset, present⟩ := permitted
    obtain ⟨stored, held⟩ := Option.isSome_iff_exists.mp present
    have own : Entity.identity entity = ⟨.package, (Entity.identity entity).id⟩ := by
      rw [← dataset]
    refine tracks.recordState { stored with state } own
      (.setState _ _ _ tracks.reachable) rfl (fun other => ?_) true
    rw [MemoryStore.at?_setState]
    by_cases same : (⟨.package, (Entity.identity entity).id⟩ : Identity) = other
    · rw [if_pos same, if_pos same, ← same, ← own, held]
      rfl
    · rw [if_neg same, if_neg same]
  | collections entity =>
    show Tracks start ⟨_, _⟩
    rw [ChangeSet.recordChanged_collectionOnly]
    exact tracks
  | elsewhere entity operation => exact tracks.recordOperation permitted operation

end Step

/-- **A permitted transaction is tracked from its start to its end.** -/
theorem tracks_run {store : MemoryStore} (reachable : store.Reachable)
    {transaction : List (Mutation ε)}
    (permitted : Permitted ⟨store, .empty⟩ transaction) :
    (run store transaction).Tracks store := by
  have onwards : ∀ session : Session ε, session.Tracks store → session.Permitted transaction →
      (transaction.foldl step session).Tracks store := by
    clear permitted
    induction transaction with
    | nil => exact fun _ tracks _ => tracks
    | cons mutation rest ih =>
      intro session tracks permitted
      exact ih _ (tracks_step tracks mutation permitted.1) permitted.2
  exact onwards _ (tracks_begin reachable) permitted

end Session

end CatalogSync
