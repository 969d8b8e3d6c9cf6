/-
**What a check of the index reports.**

* `MemoryStore.reported` — the report on the records of a type, given the ids that the index holds.
* **`Engine.effect_check`** — this is what a check yields in front of whatever index, as long as the
  index lists its ids. `Workbench.effect_check` is the case of an index in memory, where a check
  changes nothing.
* **`missing_reported`** — no record goes unreported, and they are reported in their order.
-/

import CatalogSync.Proofs.Bulk.Rebuild
import CatalogSync.Proofs.Store.Holdings

namespace CatalogSync

/-- The number of active records of a type, and the summaries of those of other ids than the given
ones. -/
def MemoryStore.reported (store : MemoryStore) (entityType : EntityType) (indexed : List String) :
    CheckReport :=
  let active := store.listIds entityType .active
  ⟨active.length, (active.filter fun id => !indexed.contains id).filterMap
    (store.summary? entityType)⟩

namespace Engine

variable {σ : Type} {engine : Engine σ} (lens : Lens σ MemoryStore)

theorem effect_summarizeEach
    (summarizes : engine.store.summarize = (MemoryStore.store.on lens).summarize)
    (state : σ) (ids : List String) :
    (engine.summarizeEach ids).effect state =
      (.ok (ids.filterMap ((lens.get state).summary? engine.entityType)), state) := by
  induction ids with
  | nil => rfl
  | cons id rest ih =>
    have asked : (engine.store.summarize engine.entityType id).effect state =
        (.ok ((lens.get state).summary? engine.entityType id), state) := by
      rw [summarizes]
      exact Prod.ext rfl (lens.set_get state)
    rw [summarizeEach]
    refine (Action.effect_bind_of_ok asked _).trans ?_
    cases kept : (lens.get state).summary? engine.entityType id with
    | some summary =>
      rw [List.filterMap_cons_some kept]
      exact Action.effect_bind_of_ok ih _
    | none =>
      rw [List.filterMap_cons_none kept]
      exact (Action.effect_bind_of_ok (Action.effect_tell _ _ _ state) _).trans ih

/-- **A check yields the report on what the index lists, and changes nothing besides.** -/
theorem effect_check
    (enumerates : engine.store.enumerate = (MemoryStore.store.on lens).enumerate)
    (summarizes : engine.store.summarize = (MemoryStore.store.on lens).summarize)
    {state reached : σ} {indexed : List String}
    (listed : (engine.documents.ids none).effect state = (.ok indexed, reached))
    (unharmed : lens.get reached = lens.get state) :
    engine.check.effect state =
      (.ok ((lens.get state).reported engine.entityType indexed), reached) := by
  have active : (engine.store.enumerate engine.entityType .active).effect state =
      (.ok ((lens.get state).listIds engine.entityType .active), state) := by
    rw [enumerates]
    exact Prod.ext rfl (lens.set_get state)
  have missing : (engine.missingFromIndex ((lens.get state).listIds engine.entityType
      .active)).effect state = (.ok (((lens.get state).listIds engine.entityType .active).filter
        fun id => !indexed.contains id), reached) :=
    Action.effect_bind_of_ok listed _
  unfold check
  refine (Action.effect_bind_of_ok active _).trans ((Action.effect_bind_of_ok missing _).trans
    ((Action.effect_bind_of_ok (effect_summarizeEach lens summarizes reached _) _).trans ?_))
  rw [unharmed]
  rfl

end Engine

namespace Workbench

variable {entityType : EntityType} (bench : Workbench)

/-- The report on the records of a type. -/
def report (bench : Workbench) (entityType : EntityType) : CheckReport :=
  let active := bench.store.listIds entityType .active
  ⟨active.length, (bench.missing active).filterMap (bench.store.summary? entityType)⟩

theorem report_eq : bench.report entityType =
    bench.store.reported entityType bench.index.visible.keys := by
  unfold report missing MemoryStore.reported
  simp only [SortedMap.keys_contains]

/-- **A check changes nothing.** -/
theorem effect_check :
    (engine entityType).check.effect bench = (.ok (bench.report entityType), bench) := by
  rw [report_eq]
  exact Engine.effect_check storePart rfl rfl (effect_ids bench) rfl

/-- Records that are listed keep their ids in their summaries. -/
theorem ids_summaries {ids : List String}
    (listed : ∀ id ∈ ids, id ∈ bench.store.listIds entityType .active) :
    (ids.filterMap (bench.store.summary? entityType)).map (·.id) = ids := by
  induction ids with
  | nil => rfl
  | cons id rest ih =>
    obtain ⟨summary, kept, same⟩ :=
      MemoryStore.summary?_of_mem_listIds (listed id List.mem_cons_self)
    rw [List.filterMap_cons_some kept, List.map_cons, same,
      ih fun other member => listed other (List.mem_cons_of_mem id member)]

/-- **The report names the active records that readers of the index do not see.** -/
theorem missing_reported :
    (bench.report entityType).missing.map (·.id) =
      bench.missing (bench.store.listIds entityType .active) :=
  ids_summaries bench fun _ member => (List.mem_filter.mp member).1

end Workbench

end CatalogSync
