/-
**Indexes by type.**

* `Registry` — what is registered for each type; the last registration for a type counts.
* `Registry.writerFor` — the writer for a type. Writing a type that nobody indexes is routine, so it
  gets the writer that discards everything.
* `Registry.readerFor` — the reader for a type. Asking for a type that nobody indexes is a mistake,
  so it fails.
-/

import CatalogSync.Index

namespace CatalogSync

/-- What is registered for each type, the latest registration first. -/
structure Registry (η : Type) where
  registrations : List (EntityType × η)

namespace Registry

variable {η σ : Type}

/-- The registry without registrations. -/
def empty : Registry η := ⟨[]⟩

/-- The registry after a further registration. -/
def register (registry : Registry η) (entityType : EntityType) (handle : η) : Registry η :=
  ⟨(entityType, handle) :: registry.registrations⟩

/-- What is registered for a type. -/
def get? (registry : Registry η) (entityType : EntityType) : Option η :=
  (registry.registrations.find? fun registration => registration.1 == entityType).map Prod.snd

/-- The last registration for a type counts, and no other type is concerned. -/
@[simp]
theorem get?_register (registry : Registry η) (entityType : EntityType) (handle : η)
    (wanted : EntityType) :
    (registry.register entityType handle).get? wanted =
      if entityType = wanted then some handle else registry.get? wanted := by
  unfold get? register
  by_cases same : entityType = wanted <;> simp [same]

/-- Whether anything is registered for a type. -/
def contains (registry : Registry η) (entityType : EntityType) : Bool :=
  (registry.get? entityType).isSome

/-- The writer for a type. -/
def writerFor (registry : Registry (IndexWriter σ)) (entityType : EntityType) :
    Action σ (IndexWriter σ) :=
  match registry.get? entityType with
  | some writer => pure writer
  | none => do
    .tell .warn "Unknown search type" [("entity_type", .text entityType.tag)]
    pure .discarding

/-- The reader for a type. -/
def readerFor (registry : Registry (IndexReader σ)) (entityType : EntityType) :
    Except SearchError (IndexReader σ) :=
  match registry.get? entityType with
  | some reader => .ok reader
  | none => .error (.unknownType entityType.tag)

end Registry

end CatalogSync
