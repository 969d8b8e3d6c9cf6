/-
**Telling listeners of changes.**

* `Listener σ` — who is told of every change, one at a time.
* `Feed` — the listeners in the order of their registration.
* `Feed.publish` — tells every listener of every change: change after change in the order of
  delivery, and of each change listener after listener. The first failure ends it.
-/

import CatalogSync.Action
import CatalogSync.Change

namespace CatalogSync

/-- Who is told of changes. -/
structure Listener (σ : Type) where
  notify : Identity → ChangeOperation → Action σ Unit

/-- Listeners in the order of their registration. -/
structure Feed (σ : Type) where
  listeners : List (Listener σ)

namespace Feed

variable {σ ε : Type} [Entity ε]

/-- The feed without listeners. -/
def empty : Feed σ := ⟨[]⟩

/-- The feed with a further listener. -/
def register (feed : Feed σ) (listener : Listener σ) : Feed σ :=
  ⟨feed.listeners ++ [listener]⟩

/-- The number of listeners. -/
def size (feed : Feed σ) : Nat := feed.listeners.length

/-- Whether nobody listens. -/
def isEmpty (feed : Feed σ) : Bool := feed.listeners.isEmpty

/-- Takes steps one after the other until one fails. -/
def inTurn : List (Action σ Unit) → Action σ Unit
  | [] => pure ()
  | step :: rest => do
    step
    inTurn rest

/-- The notifications of a set of changes, in order. -/
def notifications (feed : Feed σ) (changes : ChangeSet ε) : List (Action σ Unit) :=
  changes.entries.flatMap fun (entity, operation) =>
    feed.listeners.map fun listener => listener.notify (Entity.identity entity) operation

/-- Tells every listener of every change. -/
def publish (feed : Feed σ) (changes : ChangeSet ε) : Action σ Unit := do
  .tell .debug "Publishing changes"
    [("changes", .number changes.size), ("listeners", .number feed.size)]
  inTurn (feed.notifications changes)

end Feed

end CatalogSync
