/-
**What the recorded changes of a transaction come to.**

* `Recording` — one call that records something about an entity, and `ofRecordings`, the changes
  after a row of such calls.
* `Recording.entry?` — what a call says. A change of collections alone says nothing.
* `Tells` — the lists of a set of changes are the groups of the merged entries, and the identities
  that were seen are those of all entries. So a look at them tells whether an entry is the first one
  about its identity, although a deletion takes entities out of the lists again.
* **`Tells.record`** — every call keeps it so, and `Tells.foldl_record`, every row of calls.
* **`entries_ofRecordings`** — so the changes deliver the merged entries.
-/

import CatalogSync.Proofs.Feed.Entries
import CatalogSync.Proofs.Feed.Transaction

namespace CatalogSync

/-- One call that records something about an entity. -/
inductive Recording (ε : Type) where
  | created (entity : ε)
  | changed (entity : ε) (scope : ChangeScope)
  | deleted (entity : ε)

/-- What a call says, if it says something: a change of collections alone does not. -/
def Recording.entry? {ε : Type} : Recording ε → Option (ε × ChangeOperation)
  | .created entity => some (entity, .created)
  | .changed entity .attributes => some (entity, .changed)
  | .changed _ .collectionOnly => none
  | .deleted entity => some (entity, .deleted)

namespace ChangeSet

variable {ε : Type} [Entity ε]

/-- The changes after one more call. -/
def record (changes : ChangeSet ε) : Recording ε → ChangeSet ε
  | .created entity => changes.recordCreated entity
  | .changed entity scope => changes.recordChanged entity scope
  | .deleted entity => changes.recordDeleted entity

/-- The changes that a row of calls records. -/
def ofRecordings (recordings : List (Recording ε)) : ChangeSet ε := recordings.foldl record .empty

/-- A call that says something records it, and any other leaves the changes as they are. -/
theorem record_eq (changes : ChangeSet ε) (recording : Recording ε) :
    changes.record recording =
      match recording.entry? with
      | some (entity, operation) => changes.recordOperation entity operation
      | none => changes := by
  cases recording with
  | created entity => rfl
  | changed entity scope =>
    cases scope with
    | attributes => rfl
    | collectionOnly => exact recordChanged_collectionOnly changes entity
  | deleted entity => rfl

/-! ### What a call does to the lists -/

section Equations

variable {changes : ChangeSet ε} {entity : ε}

/-- Nothing more is recorded about an identity that was seen, unless it is a deletion. -/
theorem recordOperation_of_seen (known : Entity.identity entity ∈ changes.seen)
    {operation : ChangeOperation} (alive : operation ≠ .deleted) :
    changes.recordOperation entity operation = changes := by
  cases operation with
  | created => exact if_pos known
  | changed => exact if_pos (.inr known)
  | deleted => exact absurd rfl alive

theorem recordCreated_of_fresh (fresh : Entity.identity entity ∉ changes.seen) :
    changes.recordCreated entity =
      { changes with
        created := changes.created ++ [entity]
        seen := changes.seen ++ [Entity.identity entity] } :=
  if_neg fresh

theorem recordChanged_of_fresh (fresh : Entity.identity entity ∉ changes.seen) :
    changes.recordChanged entity .attributes =
      { changes with
        changed := changes.changed ++ [entity]
        seen := changes.seen ++ [Entity.identity entity] } :=
  if_neg (by simp only [reduceCtorEq, fresh, or_self, not_false_eq_true])

/-- Nothing more is recorded about an identity that is deleted. -/
theorem recordDeleted_of_gone (gone : Entity.identity entity ∈ changes.removed) :
    changes.recordDeleted entity = changes :=
  if_pos ((any_deleted changes _).mpr gone)

theorem recordDeleted_of_kept (kept : Entity.identity entity ∉ changes.removed) :
    changes.recordDeleted entity =
      { created := without (Entity.identity entity) changes.created
        changed := without (Entity.identity entity) changes.changed
        deleted := changes.deleted ++ [entity]
        seen := if Entity.identity entity ∈ changes.seen then changes.seen
          else changes.seen ++ [Entity.identity entity] } :=
  if_neg (mt (any_deleted changes _).mp kept)

/-- Taking an entity out of a list takes the entries about it out of its group. -/
theorem map_without (identity : Identity) (entities : List ε) (operation : ChangeOperation) :
    (without identity entities).map (·, operation) =
      (entities.map (·, operation)).filter fun entry => !isAbout identity entry := by
  rw [List.filter_map]
  rfl

end Equations

/-! ### The changes after a row of calls -/

/-- The lists of a set of changes are the groups of the merged entries. -/
structure Tells (changes : ChangeSet ε) (said : List (ε × ChangeOperation)) : Prop where
  merged : changes.Merged
  seen : ∀ identity, identity ∈ changes.seen ↔ identity ∈ said.map subject
  created : changes.created.map (·, .created) =
    (surviving said).filter fun entry => entry.2 == .created
  changed : changes.changed.map (·, .changed) =
    (surviving said).filter fun entry => entry.2 == .changed
  deleted : changes.deleted.map (·, .deleted) = firsts (deletions said)

theorem tells_empty : Tells (empty : ChangeSet ε) [] where
  merged := merged_empty
  seen _ := Iff.rfl
  created := rfl
  changed := rfl
  deleted := rfl

namespace Tells

variable {changes : ChangeSet ε} {said : List (ε × ChangeOperation)}

theorem entries (tells : changes.Tells said) : changes.entries = merge said := by
  unfold ChangeSet.entries merge
  rw [tells.created, tells.changed, tells.deleted]

/-- What is delivered as deleted is what was deleted. -/
theorem mem_removed_iff (tells : changes.Tells said) (identity : Identity) :
    identity ∈ changes.removed ↔ identity ∈ (deletions said).map subject := by
  have same : changes.removed = (changes.deleted.map (·, ChangeOperation.deleted)).map subject := by
    rw [List.map_map]
    rfl
  rw [same, tells.deleted, mem_subjects_firsts]

/-- What was spoken of once more was spoken of. -/
theorem mem_seen_record (tells : changes.Tells said) (entity : ε) (operation : ChangeOperation)
    (identity : Identity) :
    identity ∈ (changes.recordOperation entity operation).seen ↔
      identity ∈ (said ++ [(entity, operation)]).map subject := by
  have joins : identity ∈ (changes.recordOperation entity operation).seen ↔
      identity ∈ changes.seen ∨ identity = Entity.identity entity := by
    cases operation with
    | created => exact mem_seen_recordCreated changes entity identity
    | changed => exact mem_seen_recordChanged changes entity identity
    | deleted => exact mem_seen_recordDeleted tells.merged entity identity
  rw [joins, tells.seen, List.map_append, List.mem_append, List.map_cons, List.map_nil,
    List.mem_singleton]
  rfl

/-- An entity that is created or changed joins its group, unless it was spoken of already. -/
theorem recordUpsert (tells : changes.Tells said) (entity : ε) {operation : ChangeOperation}
    (alive : operation ≠ .deleted) :
    (changes.recordOperation entity operation).Tells (said ++ [(entity, operation)]) := by
  have merged := tells.merged.recordOperation entity operation
  have seen := tells.mem_seen_record entity operation
  have deletions : deletions (said ++ [(entity, operation)]) = deletions said :=
    deletions_append_upsert alive
  by_cases known : Entity.identity entity ∈ said.map subject
  · have same := recordOperation_of_seen ((tells.seen _).mpr known) alive
    rw [same] at merged seen ⊢
    refine ⟨merged, seen, ?_, ?_, ?_⟩
    · rw [surviving_append_known alive known, tells.created]
    · rw [surviving_append_known alive known, tells.changed]
    · rw [deletions, tells.deleted]
  · have fresh : Entity.identity entity ∉ changes.seen := mt (tells.seen _).mp known
    have joins := surviving_append_fresh alive known
    cases operation with
    | created =>
      rw [recordOperation, recordCreated_of_fresh fresh] at merged seen ⊢
      refine ⟨merged, seen, ?_, ?_, ?_⟩
      · rw [joins, List.filter_append, ← tells.created, List.map_append]
        rfl
      · rw [joins, List.filter_append, ← tells.changed]
        exact (List.append_nil _).symm
      · rw [deletions, ← tells.deleted]
    | changed =>
      rw [recordOperation, recordChanged_of_fresh fresh] at merged seen ⊢
      refine ⟨merged, seen, ?_, ?_, ?_⟩
      · rw [joins, List.filter_append, ← tells.created]
        exact (List.append_nil _).symm
      · rw [joins, List.filter_append, ← tells.changed, List.map_append]
        rfl
      · rw [deletions, ← tells.deleted]
    | deleted => exact absurd rfl alive

/-- An entity that is deleted takes the place of all that was said about it, unless it was deleted
already. -/
theorem recordDeletion (tells : changes.Tells said) (entity : ε) :
    (changes.recordDeleted entity).Tells (said ++ [(entity, .deleted)]) := by
  have merged := tells.merged.recordDeleted entity
  have seen := tells.mem_seen_record entity .deleted
  rw [recordOperation] at seen
  by_cases gone : Entity.identity entity ∈ (deletions said).map subject
  · have spoken : subject (entity, ChangeOperation.deleted) ∈ (deletions said).map subject := gone
    have silent := filter_surviving_not_of_deleted gone
    rw [recordDeleted_of_gone ((tells.mem_removed_iff _).mpr gone)] at merged seen ⊢
    refine ⟨merged, seen, ?_, ?_, ?_⟩
    · rw [surviving_append_deletion, silent, tells.created]
    · rw [surviving_append_deletion, silent, tells.changed]
    · rw [deletions_append_deletion, firsts_append_singleton, if_pos spoken, List.append_nil,
        tells.deleted]
  · have unspoken : subject (entity, ChangeOperation.deleted) ∉ (deletions said).map subject := gone
    rw [recordDeleted_of_kept (mt (tells.mem_removed_iff _).mp gone)] at merged seen ⊢
    refine ⟨merged, seen, ?_, ?_, ?_⟩
    · rw [surviving_append_deletion, List.filter_comm, ← tells.created, map_without]
    · rw [surviving_append_deletion, List.filter_comm, ← tells.changed, map_without]
    · rw [deletions_append_deletion, firsts_append_singleton, if_neg unspoken, ← tells.deleted,
        List.map_append]
      rfl

/-- **Every call keeps it so.** -/
theorem record (tells : changes.Tells said) (recording : Recording ε) :
    (changes.record recording).Tells (said ++ recording.entry?.toList) := by
  rw [record_eq]
  cases heard : recording.entry? with
  | none =>
    rw [Option.toList_none, List.append_nil]
    exact tells
  | some entry =>
    obtain ⟨entity, operation⟩ := entry
    by_cases deleted : operation = .deleted
    · rw [deleted]
      exact tells.recordDeletion entity
    · exact tells.recordUpsert entity deleted

/-- So it is after any row of calls. -/
theorem foldl_record (recordings : List (Recording ε)) (tells : changes.Tells said) :
    (recordings.foldl ChangeSet.record changes).Tells
      (said ++ recordings.filterMap Recording.entry?) := by
  induction recordings generalizing changes said with
  | nil =>
    rw [List.filterMap_nil, List.append_nil]
    exact tells
  | cons recording rest ih =>
    have said_eq : said ++ (recording :: rest).filterMap Recording.entry? =
        said ++ recording.entry?.toList ++ rest.filterMap Recording.entry? := by
      cases heard : recording.entry? with
      | none => rw [List.filterMap_cons_none heard, Option.toList_none, List.append_nil]
      | some entry =>
        rw [List.filterMap_cons_some heard, Option.toList_some, List.append_assoc,
          List.singleton_append]
    rw [said_eq]
    exact ih (tells.record recording)

end Tells

/-! ### The main statement -/

/-- **The changes that a row of calls records are the merged entries of what the calls say.** About
every identity they deliver its verdict, once. There are as many as identities that were spoken of,
and none just if there are no such identities. -/
theorem entries_ofRecordings (recordings : List (Recording ε)) :
    let said := recordings.filterMap Recording.entry?
    let changes := ofRecordings recordings
    changes.entries = merge said ∧
      (∀ identity, changes.entries.filter (isAbout identity) =
        (verdict said identity).toList) ∧
      changes.size = (said.map subject).toFinset.card ∧
      (changes.isEmpty = true ↔ (said.map subject).toFinset = ∅) := by
  intro said changes
  have tells : changes.Tells said := tells_empty.foldl_record recordings
  have size : changes.size = (said.map subject).toFinset.card := by
    rw [← length_entries, tells.entries, length_merge]
  refine ⟨tells.entries, fun identity => ?_, size, ?_⟩
  · rw [tells.entries, filter_merge]
  · rw [isEmpty_iff, ← List.length_eq_zero_iff, length_entries, size, Finset.card_eq_zero]

end ChangeSet

end CatalogSync
