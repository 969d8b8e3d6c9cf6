/-
**Entities of the catalogue.**

* `EntityType` — the type of an entity, a tag. `EntityType.ofTag` trims a tag and writes it in small
  letters, so that every spelling of a type selects the same one.
* `EntityState` — active, draft or deleted.
* `Identity` — a type and an id, which together tell entities apart.
* `Entity` — what every kind of entity has: an identity.
* `Package` — a dataset.
-/

import CatalogSync.Named
import CatalogSync.Text.Blank
import CatalogSync.Text.Lowercase

namespace CatalogSync

/-- The type of an entity. -/
structure EntityType where
  /-- The name of the type, as it is shown, stored and compared. -/
  tag : String
  deriving DecidableEq, Repr, Inhabited

namespace EntityType

/-- The type that a tag names: blanks around the tag and the size of its letters do not count. -/
def ofTag (tag : String) : EntityType :=
  ⟨Text.lowercase (Text.trim tag)⟩

/-- The type of datasets. -/
def package : EntityType := ⟨"package"⟩

/-- The types in ascending order of their tags, each once. -/
def ascending (types : List EntityType) : List EntityType :=
  (SortedMap.ofList (types.map fun entityType => (entityType.tag, entityType))).values

end EntityType

/-- How far an entity is in its life. -/
inductive EntityState where
  | active
  | draft
  | deleted
  deriving DecidableEq, Repr, Inhabited

/-- The name of a state. -/
def EntityState.name : EntityState → String
  | .active => "active"
  | .draft => "draft"
  | .deleted => "deleted"

instance : Named EntityState where
  members := [.active, .draft, .deleted]
  name := EntityState.name

/-- What tells an entity from all others. -/
structure Identity where
  entityType : EntityType
  id : String
  deriving DecidableEq, Repr, Inhabited

/-- A kind of entity. -/
class Entity (ε : Type) where
  identity : ε → Identity

instance : Entity Identity where
  identity := id

/-- A dataset. -/
structure Package where
  id : String
  name : String
  state : EntityState
  deriving DecidableEq, Repr

/-- A new dataset, which is active. -/
def Package.create (id name : String) : Package := ⟨id, name, .active⟩

instance : Entity Package where
  identity package := ⟨.package, package.id⟩

end CatalogSync
