/-
**An index in memory and a core that mirrors it.**

* `Client.image` — the documents for the records of an index, as a core keeps them under their keys.
* `Client.Mirrors` — a core holds the documents for the records of an index in memory, layer by
  layer.
* **`Mirrors.perform`** — it goes on to do so after every call, if nothing is pending when the call
  removes documents. A removal from a core makes visible what is pending, and a removal from an
  index in memory does not.
* `IndexWrite.flushing` — a row of calls with a commit before each removal.
* **`Mirrors.after_flushing`** — so a core mirrors an index on which these further commits are made,
  and **`Mirrors.after_of_tidy`** — it mirrors one on which they would change nothing.
-/

import CatalogSync.Proofs.Index.Timing
import CatalogSync.Proofs.Solr.Core

namespace CatalogSync

namespace IndexWrite

/-- The calls with a commit before each removal. -/
def flushing (writes : List IndexWrite) : List IndexWrite :=
  writes.flatMap fun write => if write.removal?.isSome then [.commit, write] else [write]

end IndexWrite

/-- Nothing is pending whenever a run removes documents. -/
def MemoryIndex.Tidy : MemoryIndex → List IndexWrite → Prop
  | _, [] => True
  | index, write :: rest =>
    (write.removal?.isSome → index.pending = .empty) ∧
      Tidy ((write.perform writer).effect index).2 rest

namespace Solr.Client

/-! ### Keys and documents -/

section Image

variable {σ : Type} (client : Client σ)

/-- Keys of documents are in the order of their ids. -/
theorem indexId_lt {first second : String} (less : first < second) :
    client.indexId first < client.indexId second := by
  rw [String.lt_iff_toList_lt, toList_indexId, toList_indexId]
  exact List.append_left_lt (String.lt_iff_toList_lt.mp less)

/-- The documents for the records of an index, as a core keeps them under their keys. -/
def image (records : SortedMap Record) : SortedMap Record :=
  records.rekey client.indexId client.indexId_lt client.shown

/-- The filter for a reference meets the documents for the records that answer to it. -/
theorem passes_reference_shown (reference id : String) (record : Record) :
    passes (referenceFilter client.scope reference) (client.shown id record) =
      record.answersTo reference := by
  rw [Bool.eq_iff_iff, shown, passes_referenceFilter, Record.id?_canonical, Record.name?_canonical]
  unfold Record.answersTo
  simp

theorem passes_scope_shown (id : String) (record : Record) :
    passes client.scope (client.shown id record) = true :=
  (passes_scope client client _ id).mpr ⟨rfl, rfl⟩

theorem passes_site_shown (id : String) (record : Record) :
    passes (siteFilter client.settings.siteId) (client.shown id record) = true :=
  (passes_siteFilter client client _ id).mpr rfl

theorem image_without (reference : String) (records : SortedMap Record) :
    (client.image records).filter
        (fun _ document => !passes (referenceFilter client.scope reference) document) =
      client.image (records.filter fun _ record => !record.answersTo reference) := by
  refine (SortedMap.rekey_filter _ _ _ fun entry _ => ?_).symm
  exact congrArg not (passes_reference_shown client reference entry.1 entry.2)

theorem image_cleared (records : SortedMap Record) :
    (client.image records).filter
        (fun _ document => !passes (siteFilter client.settings.siteId) document) = .empty := by
  refine SortedMap.filter_eq_empty fun entry member => ?_
  obtain ⟨⟨id, record⟩, -, rfl⟩ := List.mem_map.mp member
  rw [passes_site_shown]
  rfl

end Image

/-! ### Mirrors -/

/-- A core holds the documents for the records of an index, layer by layer. The index keeps a number
of records at most, each under its own id, and refuses nobody. -/
structure Mirrors (client : Client Core) (bound : Nat) (index : MemoryIndex) (core : Core) :
    Prop where
  visible : core.visible = client.image index.visible
  pending : core.pending = client.image index.pending
  nobody : index.refused = []
  visibleIds : index.visible.Each fun id record => record.id? = some id
  pendingIds : index.pending.Each fun id record => record.id? = some id
  few : index.visible.size + index.pending.size ≤ bound

variable {client : Client Core} {bound : Nat} {index : MemoryIndex} {core : Core}

theorem mirrors_empty : client.Mirrors 0 .empty .empty :=
  ⟨rfl, rfl, rfl, .empty, .empty, Nat.le.refl⟩

namespace Mirrors

section Layers

variable (mirrors : client.Mirrors bound index core)
include mirrors

theorem mono {further : Nat} (more : bound ≤ further) : client.Mirrors further index core :=
  { mirrors with few := mirrors.few.trans more }

theorem noted (call : IndexCall) : client.Mirrors bound (index.noted call) core := { mirrors with }

theorem settled : core.settled = client.image index.settled := by
  unfold Core.settled MemoryIndex.settled
  rw [mirrors.visible, mirrors.pending]
  exact (SortedMap.rekey_overlay _ _ _ _ _).symm

theorem size_settled : index.settled.size ≤ bound :=
  (SortedMap.size_overlay_le _ _).trans mirrors.few

theorem holding {record : Record} {id : String} (known : record.id? = some id) :
    client.Mirrors (bound + 1) (index.holding id record)
      (core.holding (client.indexId id) (client.shown id record)) where
  visible := mirrors.visible
  pending := by
    show core.pending.insert _ _ = client.image (index.pending.insert id record)
    rw [mirrors.pending]
    exact (SortedMap.rekey_insert _ _ _ _ _ _).symm
  nobody := mirrors.nobody
  visibleIds := mirrors.visibleIds
  pendingIds := mirrors.pendingIds.insert known
  few := by
    show index.visible.size + (index.pending.insert id record).size ≤ bound + 1
    have before := mirrors.few
    have after := index.pending.size_insert_le id record
    omega

theorem committed : client.Mirrors bound index.committed core.flushed where
  visible := mirrors.settled
  pending := rfl
  nobody := mirrors.nobody
  visibleIds := mirrors.visibleIds.overlay mirrors.pendingIds
  pendingIds := .empty
  few := mirrors.size_settled

/-- After a removal a core mirrors the index on which a commit was made before it. -/
theorem removed (reference : String) :
    client.Mirrors bound (index.committed.without reference)
      (core.without (referenceFilter client.scope reference)).flushed where
  visible := by
    rw [Core.flushed_without, mirrors.settled]
    exact image_without client reference _
  pending := by
    rw [Core.flushed_without]
    rfl
  nobody := mirrors.nobody
  visibleIds := mirrors.committed.visibleIds.filter _
  pendingIds := .empty
  few := (SortedMap.size_filter_le _ _).trans mirrors.size_settled

theorem cleared :
    client.Mirrors bound index.cleared
      (core.without (siteFilter client.settings.siteId)).flushed where
  visible := by
    rw [Core.flushed_without, mirrors.settled]
    exact image_cleared client _
  pending := by
    rw [Core.flushed_without]
    rfl
  nobody := mirrors.nobody
  visibleIds := .empty
  pendingIds := .empty
  few := Nat.zero_le _

theorem written {record : Record} {id : String} (known : record.id? = some id) (commit : Bool) :
    client.Mirrors (bound + 1) (index.written record commit)
      ((core.holding (client.indexId id) (client.shown id record)).flushedIf commit) := by
  rw [MemoryIndex.written_of_ok (MemoryIndex.accept_of_open mirrors.nobody known)]
  cases commit with
  | false => exact mirrors.holding known
  | true => exact (mirrors.holding known).committed

end Layers

/-! ### Calls -/

section Calls

variable (mirrors : client.Mirrors bound index core)
include mirrors

/-- A record without an id is refused on both sides, and nothing is written. -/
theorem perform_of_nameless {write : IndexWrite} (nameless : write.isNameless = true) :
    ((write.perform client.writer).effect core).1 =
        ((write.perform MemoryIndex.writer).effect index).1 ∧
      client.Mirrors bound ((write.perform MemoryIndex.writer).effect index).2
        ((write.perform client.writer).effect core).2 := by
  rw [effect_perform_of_nameless nameless]
  cases write with
  | insert record =>
    have refused := MemoryIndex.accept_of_nameless (Option.isNone_iff_eq_none.mp nameless)
    rw [IndexWrite.perform, MemoryIndex.effect_insert, refused,
      MemoryIndex.written_of_error (refused _)]
    exact ⟨rfl, mirrors.noted _⟩
  | update record deferCommit =>
    have refused := MemoryIndex.accept_of_nameless (Option.isNone_iff_eq_none.mp nameless)
    rw [IndexWrite.perform, MemoryIndex.effect_update, refused,
      MemoryIndex.written_of_error (refused _)]
    exact ⟨rfl, mirrors.noted _⟩
  | remove record =>
    rw [IndexWrite.perform,
      MemoryIndex.effect_remove_of_nameless (Option.isNone_iff_eq_none.mp nameless)]
    exact ⟨rfl, mirrors⟩
  | clear => cases nameless
  | commit => cases nameless

variable (behind : client.transport = Core.transport) {start : Nat}
  (reaches : client.Reaches start)
include behind reaches

/-- A removal from a core leaves what a commit and the removal leave in an index. -/
theorem remove_after_commit {record : Record} {id : String} (known : record.id? = some id) :
    client.Mirrors bound
      ((MemoryIndex.writer.remove record).effect (index.noted .commit).committed).2
      ((client.writer.remove record).effect core).2 := by
  rw [effect_remove_core behind reaches core known, MemoryIndex.effect_remove known]
  exact ((mirrors.noted .commit).removed id).noted _

/-- **A call comes to the same on an index and on a core that mirrors it**, and the core goes on to
do so, if nothing is pending when the call removes documents. -/
theorem perform {write : IndexWrite} (tidy : write.removal?.isSome → index.pending = .empty) :
    ((write.perform client.writer).effect core).1 =
        ((write.perform MemoryIndex.writer).effect index).1 ∧
      client.Mirrors (bound + 1) ((write.perform MemoryIndex.writer).effect index).2
        ((write.perform client.writer).effect core).2 := by
  by_cases nameless : write.isNameless = true
  · have refused := mirrors.perform_of_nameless nameless
    exact ⟨refused.1, refused.2.mono (Nat.le_succ _)⟩
  have identified (record : Record) (about : write.record? = some record) :
      ∃ id, record.id? = some id := by
    unfold IndexWrite.isNameless at nameless
    rw [about, Option.any_some, Option.isNone_iff_eq_none] at nameless
    exact Option.ne_none_iff_exists'.mp nameless
  cases write with
  | insert record =>
    obtain ⟨id, known⟩ := identified record rfl
    rw [IndexWrite.perform, IndexWrite.perform, effect_insert_core behind reaches core known,
      MemoryIndex.effect_insert, MemoryIndex.accept_of_open mirrors.nobody known]
    exact ⟨rfl, (mirrors.noted _).written known true⟩
  | update record deferCommit =>
    obtain ⟨id, known⟩ := identified record rfl
    rw [IndexWrite.perform, IndexWrite.perform,
      effect_update_core behind reaches core known, MemoryIndex.effect_update,
      MemoryIndex.accept_of_open mirrors.nobody known]
    exact ⟨rfl, (mirrors.noted _).written known _⟩
  | remove record =>
    obtain ⟨id, known⟩ := identified record rfl
    have nothing : (index.noted (.remove id)).pending = .empty := tidy (by
      rw [IndexWrite.removal?, known]
      rfl)
    have removed := (mirrors.noted (.remove id)).removed id
    rw [MemoryIndex.committed_of_pending_empty nothing] at removed
    rw [IndexWrite.perform, IndexWrite.perform, effect_remove_core behind reaches core known,
      MemoryIndex.effect_remove known]
    exact ⟨rfl, removed.mono (Nat.le_succ _)⟩
  | clear =>
    rw [IndexWrite.perform, IndexWrite.perform, effect_clear_core behind reaches core,
      MemoryIndex.effect_clear]
    exact ⟨rfl, (mirrors.noted _).cleared.mono (Nat.le_succ _)⟩
  | commit =>
    rw [IndexWrite.perform, IndexWrite.perform, effect_commit_core behind reaches core,
      MemoryIndex.effect_commit]
    exact ⟨rfl, (mirrors.noted _).committed.mono (Nat.le_succ _)⟩

/-- A call on a core leaves what it leaves in an index, after a commit if it removes documents. -/
theorem perform_flushing (write : IndexWrite) :
    client.Mirrors (bound + 1) (MemoryIndex.writer.after (IndexWrite.flushing [write]) index)
      ((write.perform client.writer).effect core).2 := by
  unfold IndexWrite.flushing
  rw [List.flatMap_singleton]
  by_cases removes : write.removal?.isSome = true
  · obtain ⟨record, id, rfl, known⟩ := IndexWrite.eq_remove_of_removal removes
    rw [if_pos removes]
    exact (mirrors.remove_after_commit behind reaches known).mono (Nat.le_succ _)
  · rw [if_neg removes]
    exact (mirrors.perform behind reaches fun removes' => absurd removes' removes).2

/-! ### Runs -/

/-- **A core goes on to mirror an index if a commit precedes each removal from the index.** -/
theorem after_flushing (writes : List IndexWrite) :
    client.Mirrors (bound + writes.length)
      (MemoryIndex.writer.after (IndexWrite.flushing writes) index)
      (client.writer.after writes core) := by
  induction writes generalizing bound index core with
  | nil => exact mirrors
  | cons write rest ih =>
    have split : IndexWrite.flushing (write :: rest) =
        IndexWrite.flushing [write] ++ IndexWrite.flushing rest := by
      unfold IndexWrite.flushing
      rw [List.flatMap_cons, List.flatMap_singleton]
    rw [split, IndexWriter.after_append, List.length_cons, Nat.add_comm rest.length,
      ← Nat.add_assoc]
    exact ih (mirrors.perform_flushing behind reaches write)

/-- **So it does if nothing is pending whenever documents are removed.** -/
theorem after_of_tidy {writes : List IndexWrite} (tidy : index.Tidy writes) :
    client.Mirrors (bound + writes.length) (MemoryIndex.writer.after writes index)
      (client.writer.after writes core) := by
  induction writes generalizing bound index core with
  | nil => exact mirrors
  | cons write rest ih =>
    rw [List.length_cons, Nat.add_comm rest.length, ← Nat.add_assoc]
    exact ih (mirrors.perform behind reaches tidy.1).2 tidy.2

end Calls

end Mirrors

end Solr.Client

end CatalogSync
