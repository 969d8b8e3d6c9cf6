/-
**Notes make no difference.**

* `Action.Erases` — an action on a state with notes comes to the same as another one on the state
  without them. It is shown for the parts of an action and carried to the whole of it by
  `Erases.bind`.
* `Engine.Erases` — the same for all that an engine calls.
* **`Engine.Erases.rebuild`** — then a rebuild reports the same and leaves the same behind, whether
  notes are taken or not.
-/

import CatalogSync.Bulk.Engine
import CatalogSync.Proofs.Index.Write

namespace CatalogSync

namespace Action

variable {σ τ α β : Type}

/-- Without its notes an action comes to the same as another one. -/
def Erases (erase : σ → τ) (action : Action σ α) (plain : Action τ α) : Prop :=
  ∀ state, plain.effect (erase state) = ((action.effect state).1, erase (action.effect state).2)

namespace Erases

variable {erase : σ → τ}

theorem pure (value : α) :
    Erases erase (Pure.pure value : Action σ α) (Pure.pure value) := fun _ => rfl

theorem fail (failure : SearchError) :
    Erases erase (Action.fail failure : Action σ α) (.fail failure) := fun _ => rfl

theorem tell (level : Level) (message : String) (fields : List (String × Detail)) :
    Erases erase (Action.tell level message fields) (.tell level message fields) := fun _ => rfl

theorem ofExcept (given : Except SearchError α) :
    Erases erase (Action.ofExcept given) (.ofExcept given) := fun state => by
  rw [effect_ofExcept, effect_ofExcept]

theorem attempt {action : Action σ α} {plain : Action τ α} (erases : Erases erase action plain) :
    Erases erase action.attempt plain.attempt := fun state => by
  rw [effect_attempt, effect_attempt, erases]

/-- Two actions in a row come to the same without notes if each of them does. -/
theorem bind {action : Action σ α} {plain : Action τ α} {next : α → Action σ β}
    {plainNext : α → Action τ β} (first : Erases erase action plain)
    (rest : ∀ value, Erases erase (next value) (plainNext value)) :
    Erases erase (action >>= next) (plain >>= plainNext) := by
  intro state
  have same := first state
  rcases ran : action.effect state with ⟨failure | value, reached⟩
  · rw [ran] at same
    rw [effect_bind_of_error ran, effect_bind_of_error same]
  · rw [ran] at same
    rw [effect_bind_of_ok ran, effect_bind_of_ok same, rest value reached]

end Erases

end Action

namespace Engine

variable {σ τ : Type}

/-- All that an engine calls comes to the same without notes. -/
structure Erases (erase : σ → τ) (engine : Engine σ) (plain : Engine τ) : Prop where
  entityType : engine.entityType = plain.entityType
  write : ∀ write : IndexWrite,
    Action.Erases erase (write.perform engine.index) (write.perform plain.index)
  ids : ∀ limit, Action.Erases erase (engine.documents.ids limit) (plain.documents.ids limit)
  fetch : ∀ entityType reference,
    Action.Erases erase (engine.store.fetch entityType reference)
      (plain.store.fetch entityType reference)
  enumerate : ∀ entityType scope,
    Action.Erases erase (engine.store.enumerate entityType scope)
      (plain.store.enumerate entityType scope)
  commit : Action.Erases erase engine.store.commit plain.store.commit

namespace Erases

variable {erase : σ → τ} {engine : Engine σ} {plain : Engine τ} (erases : engine.Erases erase plain)
  (options : RebuildOptions)
include erases

theorem reindex (deferCommit : Bool) (id : String) :
    Action.Erases erase (engine.reindex deferCommit id) (plain.reindex deferCommit id) := by
  unfold Engine.reindex
  rw [erases.entityType]
  exact (erases.fetch _ id).bind fun record => erases.write (.update record deferCommit)

/-- The loop, one record after the other. -/
theorem reindexEach (deferCommit : Bool) (total position : Nat) (tally : Tally)
    (ids : List String) :
    Action.Erases erase (engine.reindexEach options deferCommit total position tally ids)
      (plain.reindexEach options deferCommit total position tally ids) := by
  induction ids generalizing position tally with
  | nil => exact .pure _
  | cons id rest ih =>
    rw [Engine.reindexEach, Engine.reindexEach]
    refine Action.Erases.bind ?announced fun _ =>
      (erases.reindex deferCommit id).attempt.bind fun result => ?tried
    case announced =>
      unfold announce
      split
      · exact .pure _
      · exact .tell _ _ _
    case tried =>
      cases result with
      | ok done => exact ih _ _
      | error failure =>
        refine (Action.Erases.tell _ _ _).bind fun _ => ?_
        split
        · exact ih _ _
        · exact (Action.Erases.tell _ _ _).bind fun _ => .fail _

theorem process (deferCommit : Bool) (ids : List String) :
    Action.Erases erase (engine.process options deferCommit ids)
      (plain.process options deferCommit ids) := by
  unfold Engine.process
  refine (Action.Erases.tell _ _ _).bind fun _ =>
    (erases.reindexEach options deferCommit _ _ _ ids).bind fun tally => ?_
  split
  · exact .pure _
  · exact (Action.Erases.tell _ _ _).bind fun _ => .pure _

theorem missingFromIndex (ids : List String) :
    Action.Erases erase (engine.missingFromIndex ids) (plain.missingFromIndex ids) :=
  (erases.ids none).bind fun _ => .pure _

theorem rebuildOne (reference : String) :
    Action.Erases erase (engine.rebuildOne reference) (plain.rebuildOne reference) := by
  unfold Engine.rebuildOne
  rw [erases.entityType]
  exact (erases.fetch _ reference).bind fun record => (Action.Erases.tell _ _ _).bind fun _ =>
    (erases.write (.remove record)).bind fun _ => (erases.write (.insert record)).bind fun _ =>
      .pure _

theorem rebuildMany (ids : List String) :
    Action.Erases erase (engine.rebuildMany ids options) (plain.rebuildMany ids options) := by
  refine (erases.process options true ids).bind fun summary => ?_
  split
  · exact .pure _
  · exact (erases.write .commit).bind fun _ => .pure _

theorem rebuildAll :
    Action.Erases erase (engine.rebuildAll options) (plain.rebuildAll options) := by
  unfold Engine.rebuildAll
  rw [erases.entityType]
  refine (Action.Erases.tell _ _ _).bind fun _ => (erases.enumerate _ _).bind fun ids => ?_
  split
  · refine (Action.Erases.tell _ _ _).bind fun _ => (Action.Erases.tell _ _ _).bind fun _ =>
      (erases.missingFromIndex ids).bind fun missing => ?_
    split
    · exact (Action.Erases.tell _ _ _).bind fun _ => .pure _
    · exact erases.process options _ missing
  · refine (Action.Erases.tell _ _ _).bind fun _ => ?_
    split
    · exact (Action.Erases.tell _ _ _).bind fun _ => (erases.write .clear).bind fun _ =>
        erases.process options _ ids
    · exact erases.process options _ ids

/-- **A rebuild reports the same and leaves the same behind, whether notes are taken or not.** -/
theorem rebuild (selector : Selector) :
    Action.Erases erase (engine.rebuild selector options) (plain.rebuild selector options) := by
  have selected : Action.Erases erase (engine.rebuildSelected selector options)
      (plain.rebuildSelected selector options) := by
    cases selector with
    | one reference => exact erases.rebuildOne reference
    | many ids => exact erases.rebuildMany options ids
    | all => exact erases.rebuildAll options
  exact (Action.Erases.tell _ _ _).bind fun _ => selected.bind fun summary =>
    (Action.Erases.tell _ _ _).bind fun _ => erases.commit.bind fun _ =>
      (Action.Erases.tell _ _ _).bind fun _ => (Action.Erases.tell _ _ _).bind fun _ => .pure _

end Erases

end Engine

end CatalogSync
