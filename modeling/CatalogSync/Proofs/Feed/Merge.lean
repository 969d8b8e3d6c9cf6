/-
**How the changes of a transaction are merged.**

* `upserted`, `removed` — the identities that are delivered as created or changed, and those that
  are delivered as deleted.
* `Merged` — whatever was recorded is in one of the two, and nothing is in both.
* `mem_upserted_recordCreated`, `mem_upserted_recordDeleted` and their like — what one more record
  does to the two. A deletion takes the place of what was recorded about the entity before, and
  nothing that is recorded about it later has any effect.

A set that was empty at the start of its transaction is always merged, since every way of
recording keeps it so (`Merged.recordCreated`, `Merged.recordChanged`, `Merged.recordDeleted`).
-/

import CatalogSync.Change

namespace CatalogSync.ChangeSet

variable {ε : Type} [Entity ε]

/-- The identities of the created and the changed entities. -/
def upserted (changes : ChangeSet ε) : List Identity :=
  (changes.created ++ changes.changed).map Entity.identity

/-- The identities of the deleted entities. -/
def removed (changes : ChangeSet ε) : List Identity := changes.deleted.map Entity.identity

/-- The changes by the identities of their entities, in the order of delivery. -/
def deliveries (changes : ChangeSet ε) : List (Identity × ChangeOperation) :=
  changes.entries.map fun entry => (Entity.identity entry.1, entry.2)

/-- Those of them that are not deletions. -/
def upserts (changes : ChangeSet ε) : List (Identity × ChangeOperation) :=
  changes.created.map (fun entity => (Entity.identity entity, .created)) ++
    changes.changed.map (fun entity => (Entity.identity entity, .changed))

/-- Deletions are delivered last. -/
theorem deliveries_eq (changes : ChangeSet ε) :
    changes.deliveries = changes.upserts ++ changes.removed.map (·, .deleted) := by
  unfold deliveries upserts removed entries
  simp only [List.map_append, List.map_map]
  rfl

theorem map_fst_upserts (changes : ChangeSet ε) :
    changes.upserts.map Prod.fst = changes.upserted := by
  unfold upserts upserted
  simp only [List.map_append, List.map_map]
  rfl

theorem alive_of_mem_upserts {changes : ChangeSet ε} {entry : Identity × ChangeOperation}
    (member : entry ∈ changes.upserts) : entry.2 ≠ .deleted := by
  rcases List.mem_append.mp member with created | changed
  · obtain ⟨entity, -, same⟩ := List.mem_map.mp created
    simp [← same]
  · obtain ⟨entity, -, same⟩ := List.mem_map.mp changed
    simp [← same]

/-- What is delivered and not deleted is created or changed. -/
theorem mem_upserted_of_mem_deliveries {changes : ChangeSet ε}
    {entry : Identity × ChangeOperation} (member : entry ∈ changes.deliveries)
    (alive : entry.2 ≠ .deleted) : entry.1 ∈ changes.upserted := by
  rw [deliveries_eq] at member
  rcases List.mem_append.mp member with upsert | removal
  · rw [← map_fst_upserts]
    exact List.mem_map_of_mem upsert
  · obtain ⟨identity, -, same⟩ := List.mem_map.mp removal
    exact absurd (congrArg Prod.snd same).symm alive

/-- Every recorded identity is delivered, and none both as deleted and otherwise. -/
structure Merged (changes : ChangeSet ε) : Prop where
  delivered : ∀ identity,
    identity ∈ changes.seen ↔ identity ∈ changes.upserted ∨ identity ∈ changes.removed
  apart : ∀ identity ∈ changes.upserted, identity ∉ changes.removed

theorem merged_empty : (empty : ChangeSet ε).Merged where
  delivered _ := by simp [empty, upserted, removed]
  apart _ member := by simp [empty, upserted] at member

variable {changes : ChangeSet ε}

/-- Noting an identity a second time adds nothing. -/
theorem mem_iff_of_known {identities : List Identity} {identity : Identity}
    (known : identity ∈ identities) (wanted : Identity) :
    wanted ∈ identities ↔ wanted ∈ identities ∨ wanted = identity := by
  constructor
  · exact .inl
  · rintro (kept | same)
    · exact kept
    · rw [same]
      exact known

/-- Nor does recording an entity as created or changed that is delivered already. -/
theorem Merged.mem_upserted_of_seen (merged : changes.Merged) {identity : Identity}
    (known : identity ∈ changes.seen) (wanted : Identity) :
    wanted ∈ changes.upserted ↔
      wanted ∈ changes.upserted ∨ wanted = identity ∧ identity ∉ changes.removed := by
  constructor
  · exact .inl
  · rintro (kept | ⟨same, stays⟩)
    · exact kept
    · rw [same]
      exact ((merged.delivered identity).mp known).resolve_right stays

theorem Merged.notMem_removed (merged : changes.Merged) {identity : Identity}
    (fresh : identity ∉ changes.seen) : identity ∉ changes.removed :=
  fun gone => fresh ((merged.delivered identity).mpr (.inr gone))

/-- A set in which one more entity is created or changed, unless it is deleted, is merged. -/
theorem Merged.upsert (merged : changes.Merged) {after : ChangeSet ε} {identity : Identity}
    (seen : ∀ wanted, wanted ∈ after.seen ↔ wanted ∈ changes.seen ∨ wanted = identity)
    (joins : ∀ wanted, wanted ∈ after.upserted ↔
      wanted ∈ changes.upserted ∨ wanted = identity ∧ identity ∉ changes.removed)
    (same : after.removed = changes.removed) : after.Merged := by
  constructor
  · intro wanted
    rw [seen, joins, same, merged.delivered]
    constructor
    · rintro ((kept | gone) | here)
      · exact .inl (.inl kept)
      · exact .inr gone
      · by_cases gone : identity ∈ changes.removed
        · exact .inr (here ▸ gone)
        · exact .inl (.inr ⟨here, gone⟩)
    · rintro ((kept | ⟨here, -⟩) | gone)
      · exact .inl (.inl kept)
      · exact .inr here
      · exact .inl (.inr gone)
  · intro wanted member
    rw [same]
    rcases (joins wanted).mp member with kept | ⟨here, stays⟩
    · exact merged.apart wanted kept
    · rw [here]
      exact stays

/-! ### Created entities -/

section Created

theorem mem_seen_recordCreated (changes : ChangeSet ε) (entity : ε) (wanted : Identity) :
    wanted ∈ (changes.recordCreated entity).seen ↔
      wanted ∈ changes.seen ∨ wanted = Entity.identity entity := by
  unfold recordCreated
  by_cases known : Entity.identity entity ∈ changes.seen
  · rw [if_pos known]
    exact mem_iff_of_known known wanted
  · rw [if_neg known, List.mem_append, List.mem_singleton]

@[simp]
theorem removed_recordCreated (changes : ChangeSet ε) (entity : ε) :
    (changes.recordCreated entity).removed = changes.removed := by
  unfold recordCreated
  simp only
  split
  · rfl
  · rfl

theorem mem_upserted_recordCreated (merged : changes.Merged) (entity : ε) (wanted : Identity) :
    wanted ∈ (changes.recordCreated entity).upserted ↔
      wanted ∈ changes.upserted ∨
        wanted = Entity.identity entity ∧ Entity.identity entity ∉ changes.removed := by
  unfold recordCreated
  by_cases known : Entity.identity entity ∈ changes.seen
  · rw [if_pos known]
    exact merged.mem_upserted_of_seen known wanted
  · rw [if_neg known, and_iff_left (merged.notMem_removed known)]
    unfold upserted
    simp only [List.map_append, List.mem_append, List.map_cons, List.map_nil, List.mem_singleton]
    rw [or_right_comm]

theorem Merged.recordCreated (merged : changes.Merged) (entity : ε) :
    (changes.recordCreated entity).Merged :=
  merged.upsert (mem_seen_recordCreated changes entity) (mem_upserted_recordCreated merged entity)
    (removed_recordCreated changes entity)

end Created

/-! ### Changed entities -/

section Changed

theorem recordChanged_collectionOnly (changes : ChangeSet ε) (entity : ε) :
    changes.recordChanged entity .collectionOnly = changes := by
  unfold recordChanged
  exact if_pos (.inl rfl)

theorem mem_seen_recordChanged (changes : ChangeSet ε) (entity : ε) (wanted : Identity) :
    wanted ∈ (changes.recordChanged entity .attributes).seen ↔
      wanted ∈ changes.seen ∨ wanted = Entity.identity entity := by
  unfold recordChanged
  by_cases known : Entity.identity entity ∈ changes.seen
  · rw [if_pos (.inr known)]
    exact mem_iff_of_known known wanted
  · rw [if_neg (by simp [known]), List.mem_append, List.mem_singleton]

@[simp]
theorem removed_recordChanged (changes : ChangeSet ε) (entity : ε) (scope : ChangeScope) :
    (changes.recordChanged entity scope).removed = changes.removed := by
  unfold recordChanged
  simp only
  split
  · rfl
  · rfl

theorem mem_upserted_recordChanged (merged : changes.Merged) (entity : ε) (wanted : Identity) :
    wanted ∈ (changes.recordChanged entity .attributes).upserted ↔
      wanted ∈ changes.upserted ∨
        wanted = Entity.identity entity ∧ Entity.identity entity ∉ changes.removed := by
  unfold recordChanged
  by_cases known : Entity.identity entity ∈ changes.seen
  · rw [if_pos (.inr known)]
    exact merged.mem_upserted_of_seen known wanted
  · rw [if_neg (by simp [known]), and_iff_left (merged.notMem_removed known)]
    unfold upserted
    simp only [List.map_append, List.mem_append, List.map_cons, List.map_nil, List.mem_singleton]
    rw [or_assoc]

theorem Merged.recordChanged (merged : changes.Merged) (entity : ε) :
    (changes.recordChanged entity .attributes).Merged :=
  merged.upsert (mem_seen_recordChanged changes entity) (mem_upserted_recordChanged merged entity)
    (removed_recordChanged changes entity .attributes)

end Changed

/-! ### Deleted entities -/

section Deleted

theorem any_deleted (changes : ChangeSet ε) (identity : Identity) :
    (changes.deleted.any fun other => Entity.identity other == identity) = true ↔
      identity ∈ changes.removed := by
  unfold removed
  simp only [List.any_eq_true, beq_iff_eq, List.mem_map]

theorem mem_removed_recordDeleted (changes : ChangeSet ε) (entity : ε) (wanted : Identity) :
    wanted ∈ (changes.recordDeleted entity).removed ↔
      wanted ∈ changes.removed ∨ wanted = Entity.identity entity := by
  unfold recordDeleted
  by_cases gone : Entity.identity entity ∈ changes.removed
  · rw [if_pos ((any_deleted changes _).mpr gone)]
    exact mem_iff_of_known gone wanted
  · rw [if_neg (mt (any_deleted changes _).mp gone)]
    unfold removed
    simp only [List.map_append, List.mem_append, List.map_cons, List.map_nil, List.mem_singleton]

theorem mem_map_without (identity : Identity) (entities : List ε) (wanted : Identity) :
    wanted ∈ (without identity entities).map Entity.identity ↔
      wanted ∈ entities.map Entity.identity ∧ wanted ≠ identity := by
  unfold without
  simp only [List.mem_map, List.mem_filter, bne_iff_ne]
  constructor
  · rintro ⟨entity, ⟨member, apart⟩, same⟩
    exact ⟨⟨entity, member, same⟩, same ▸ apart⟩
  · rintro ⟨⟨entity, member, same⟩, apart⟩
    exact ⟨entity, ⟨member, same ▸ apart⟩, same⟩

theorem mem_upserted_recordDeleted (merged : changes.Merged) (entity : ε) (wanted : Identity) :
    wanted ∈ (changes.recordDeleted entity).upserted ↔
      wanted ∈ changes.upserted ∧ wanted ≠ Entity.identity entity := by
  unfold recordDeleted
  by_cases gone : Entity.identity entity ∈ changes.removed
  · rw [if_pos ((any_deleted changes _).mpr gone)]
    exact ⟨fun kept => ⟨kept, fun same => merged.apart wanted kept (same ▸ gone)⟩, And.left⟩
  · rw [if_neg (mt (any_deleted changes _).mp gone)]
    unfold upserted
    rw [List.map_append, List.mem_append, List.map_append, List.mem_append, mem_map_without,
      mem_map_without, or_and_right]

theorem mem_seen_recordDeleted (merged : changes.Merged) (entity : ε) (wanted : Identity) :
    wanted ∈ (changes.recordDeleted entity).seen ↔
      wanted ∈ changes.seen ∨ wanted = Entity.identity entity := by
  unfold recordDeleted
  by_cases gone : Entity.identity entity ∈ changes.removed
  · have known := (merged.delivered _).mpr (.inr gone)
    rw [if_pos ((any_deleted changes _).mpr gone)]
    exact mem_iff_of_known known wanted
  · rw [if_neg (mt (any_deleted changes _).mp gone)]
    by_cases known : Entity.identity entity ∈ changes.seen
    · simp only [if_pos known]
      exact mem_iff_of_known known wanted
    · simp only [if_neg known, List.mem_append, List.mem_singleton]

theorem Merged.recordDeleted (merged : changes.Merged) (entity : ε) :
    (changes.recordDeleted entity).Merged := by
  constructor
  · intro wanted
    rw [mem_seen_recordDeleted merged, mem_upserted_recordDeleted merged,
      mem_removed_recordDeleted, merged.delivered]
    by_cases same : wanted = Entity.identity entity
    · simp [same]
    · simp [same]
  · intro wanted kept gone
    obtain ⟨before, other⟩ := (mem_upserted_recordDeleted merged entity wanted).mp kept
    rcases (mem_removed_recordDeleted changes entity wanted).mp gone with already | same
    · exact merged.apart wanted before already
    · exact other same

end Deleted

end CatalogSync.ChangeSet
