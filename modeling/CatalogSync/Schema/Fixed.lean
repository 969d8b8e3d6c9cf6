/-
**A source of schemas that are laid out beforehand.**

* `FixedSchema` — whether the engine is there, what it answers in each place, and the places that
  were asked so far.
* `FixedSchema.source` — the source that answers so.
-/

import CatalogSync.Schema.Gate

namespace CatalogSync

/-- What a source of schemas answers, and what it was asked. -/
structure FixedSchema where
  isAvailable : Bool
  managed : Except SearchError String
  classic : Except SearchError String
  /-- The places that were asked, in order. -/
  requests : List SchemaLocation

namespace FixedSchema

/-- The answer of an engine that has no schema in a place. -/
def missing (location : SchemaLocation) : Except SearchError String :=
  .error (.http 404 location.offset)

/-- An engine that is there and has no schema. -/
def empty : FixedSchema := ⟨true, missing .managed, missing .classic, []⟩

/-- What is answered in a place. -/
def answer (schema : FixedSchema) : SchemaLocation → Except SearchError String
  | .managed => schema.managed
  | .classic => schema.classic

/-- The source that gives the answers and notes what it is asked. -/
def source : SchemaSource FixedSchema where
  isAvailable := .ask FixedSchema.isAvailable
  fetchSchema location := do
    .change fun schema => { schema with requests := schema.requests ++ [location] }
    .ofExcept (← .ask fun schema => schema.answer location)

end FixedSchema

/-- The source that lives in a part of a larger state. -/
def SchemaSource.on {σ τ : Type} (lens : Lens σ τ) (source : SchemaSource τ) : SchemaSource σ where
  isAvailable := source.isAvailable.on lens
  fetchSchema location := (source.fetchSchema location).on lens

end CatalogSync
