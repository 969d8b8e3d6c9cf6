/-
**Changes of a transaction.**

* `ChangeOperation`, `ChangeScope` — what happened to an entity, and whether its own attributes or
  only its collections are concerned.
* `ChangeSet` — the changes that one transaction recorded, merged: an entity is in it at most once,
  and a deletion stands in for everything recorded about the entity before.
* `ChangeSet.entries` — the entities with their operations in the order of delivery: created,
  changed, deleted.
-/

import CatalogSync.Entity

namespace CatalogSync

/-- What happened to an entity. -/
inductive ChangeOperation where
  | created
  | changed
  | deleted
  deriving DecidableEq, Repr, Inhabited

/-- The name of an operation. -/
def ChangeOperation.name : ChangeOperation → String
  | .created => "created"
  | .changed => "changed"
  | .deleted => "deleted"

instance : Named ChangeOperation where
  members := [.created, .changed, .deleted]
  name := ChangeOperation.name

/-- What part of an entity changed. -/
inductive ChangeScope where
  | attributes
  | collectionOnly
  deriving DecidableEq, Repr

/-- The changes recorded during one transaction. -/
structure ChangeSet (ε : Type) where
  created : List ε
  changed : List ε
  deleted : List ε
  /-- Every identity that was recorded. -/
  seen : List Identity

namespace ChangeSet

variable {ε : Type}

/-- No changes. -/
def empty : ChangeSet ε := ⟨[], [], [], []⟩

instance : Inhabited (ChangeSet ε) := ⟨empty⟩

/-- Records a new entity, unless something is recorded about it already. -/
def recordCreated [Entity ε] (changes : ChangeSet ε) (entity : ε) : ChangeSet ε :=
  let identity := Entity.identity entity
  if identity ∈ changes.seen then changes
  else { changes with created := changes.created ++ [entity], seen := changes.seen ++ [identity] }

/-- Records a changed entity, unless something is recorded about it already. A change of
collections alone is not recorded. -/
def recordChanged [Entity ε] (changes : ChangeSet ε) (entity : ε) (scope : ChangeScope) :
    ChangeSet ε :=
  let identity := Entity.identity entity
  if scope = .collectionOnly ∨ identity ∈ changes.seen then changes
  else { changes with changed := changes.changed ++ [entity], seen := changes.seen ++ [identity] }

/-- The entities of a list that are not the one of a given identity. -/
def without [Entity ε] (identity : Identity) (entities : List ε) : List ε :=
  entities.filter fun entity => Entity.identity entity != identity

/-- Records a deleted entity, in place of what is recorded about it; the first deletion stays. -/
def recordDeleted [Entity ε] (changes : ChangeSet ε) (entity : ε) : ChangeSet ε :=
  let identity := Entity.identity entity
  if changes.deleted.any fun other => Entity.identity other == identity then changes
  else
    { created := without identity changes.created
      changed := without identity changes.changed
      deleted := changes.deleted ++ [entity]
      seen := if identity ∈ changes.seen then changes.seen else changes.seen ++ [identity] }

/-- The number of entities in the set. -/
def size (changes : ChangeSet ε) : Nat :=
  changes.created.length + changes.changed.length + changes.deleted.length

/-- Whether the set holds no entity. -/
def isEmpty (changes : ChangeSet ε) : Bool :=
  changes.created.isEmpty && changes.changed.isEmpty && changes.deleted.isEmpty

/-- The entities with their operations in the order of delivery. -/
def entries (changes : ChangeSet ε) : List (ε × ChangeOperation) :=
  changes.created.map (·, .created) ++ changes.changed.map (·, .changed) ++
    changes.deleted.map (·, .deleted)

/-- Every entity of the set is delivered once. -/
theorem length_entries (changes : ChangeSet ε) : changes.entries.length = changes.size := by
  simp [entries, size, Nat.add_assoc]

/-- A set without entities delivers nothing. -/
theorem isEmpty_iff (changes : ChangeSet ε) : changes.isEmpty = true ↔ changes.entries = [] := by
  simp [isEmpty, entries, List.isEmpty_iff, and_assoc]

/-- The number of entities under each operation, as shown in reports. -/
def overview (changes : ChangeSet ε) : String :=
  "ChangeSet \x7b created: " ++ toString changes.created.length ++
    ", changed: " ++ toString changes.changed.length ++
    ", deleted: " ++ toString changes.deleted.length ++ " \x7d"

end ChangeSet

end CatalogSync
