/-
**Listeners that keep what they hear.**

* `Heard` — one notification: who was told, what happened, and to which entity.
* `Listener.recorder` — a named listener that notes every notification, and then fails for the
  entities it was told to fail for.
-/

import CatalogSync.Feed

namespace CatalogSync

/-- One notification. -/
structure Heard where
  listener : String
  operation : ChangeOperation
  identity : Identity
  deriving DecidableEq, Repr

/-- The listener that notes every notification and then fails for the given ids. -/
def Listener.recorder {σ : Type} (notes : Lens σ (List Heard)) (name : String)
    (refused : List String) : Listener σ where
  notify identity operation := do
    .change fun state => notes.set state (notes.get state ++ [⟨name, operation, identity⟩])
    if identity.id ∈ refused then .fail (.indexWrite ("Listener " ++ name ++ " failed"))
    else pure ()

end CatalogSync
