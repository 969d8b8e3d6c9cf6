/-
**Rebuilding one record.**

* `replaced` — the workbench after the documents that answer to the id of a record were removed and
  the record was put in their place.
* **`effect_rebuild_one`** — a rebuild of one record leaves this behind, whatever its options. It
  yields its summary and ends the session of the store, or fails as the record does.
* `replaced_of_ok`, `replaced_of_error` — the layers of the index afterwards. A record that does not
  fail is committed together with everything that was pending; one that the index refuses is gone.
-/

import CatalogSync.Proofs.Bulk.Rebuild
import CatalogSync.Proofs.SortedMap

namespace CatalogSync.Workbench

/-- The workbench after a record was replaced in the index, or could not be. -/
def replaced (bench : Workbench) (entityType : EntityType) (reference : String) : Workbench :=
  match bench.store.fetch? entityType reference with
  | .error _ => bench.asking reference
  | .ok record =>
    match record.id? with
    | none => bench.asking reference
    | some id =>
      { bench.asking reference with
        index := (((bench.index.noted (.remove id)).without id).noted (.insert id)).written record
          true }

/-- The index without the documents that are to be replaced. -/
def spared (bench : Workbench) (entityType : EntityType) (reference : String) : MemoryIndex :=
  match bench.store.fetch? entityType reference with
  | .error _ => bench.index
  | .ok record =>
    match record.id? with
    | none => bench.index
    | some id => bench.index.without id

/-- The calls on the index that replacing a record makes. -/
def replacements (bench : Workbench) (entityType : EntityType) (reference : String) :
    List IndexCall :=
  match bench.store.fetch? entityType reference with
  | .error _ => []
  | .ok record =>
    match record.id? with
    | none => []
    | some id => [.remove id, .insert id]

/-- The summary of a rebuild of one record. -/
def single : RebuildSummary := ⟨1, 1, [], .completed⟩

/-! ### The run -/

section Run

variable (entityType : EntityType) (bench : Workbench) (reference : String)

theorem effect_rebuildOne :
    ((engine entityType).rebuildOne reference).effect bench =
      ((bench.document entityType reference).map fun _ => single,
        bench.replaced entityType reference) := by
  have asked := effect_fetch entityType reference bench
  unfold Engine.rebuildOne
  cases found : bench.store.fetch? entityType reference with
  | error failure =>
    rw [found] at asked
    simp only [document, replaced, found]
    exact Action.effect_bind_of_error asked _
  | ok record =>
    rw [found] at asked
    refine (Action.effect_bind_of_ok asked _).trans
      ((Action.effect_bind_of_ok (Action.effect_tell _ _ _ _) _).trans ?_)
    cases known : record.id? with
    | none =>
      simp only [document, replaced, found, known, MemoryIndex.accept_of_nameless known]
      exact Action.effect_bind_of_error (effect_remove_of_nameless known _) _
    | some id =>
      have inserted : (writer.insert record).effect { bench.asking reference with
            index := (bench.index.noted (.remove id)).without id } =
          ((bench.index.accept record).map fun _ => (), bench.replaced entityType reference) := by
        rw [effect_insert]
        simp only [replaced, found, known]
        rfl
      refine (Action.effect_bind_of_ok (effect_remove known _) _).trans ?_
      simp only [document, found]
      cases kept : bench.index.accept record with
      | error failure =>
        rw [kept] at inserted
        exact Action.effect_bind_of_error inserted _
      | ok key =>
        rw [kept] at inserted
        exact Action.effect_bind_of_ok inserted _

/-- **A rebuild of one record fails as the record does, and ends the session of the store
otherwise.** -/
theorem effect_rebuild_one (options : RebuildOptions) :
    ((engine entityType).rebuild (.one reference) options).effect bench =
      match bench.document entityType reference with
      | .error failure => (.error failure, bench.replaced entityType reference)
      | .ok _ => (.ok single, (bench.replaced entityType reference).ended) := by
  have ran := effect_rebuildOne entityType bench reference
  cases brought : bench.document entityType reference with
  | error failure =>
    rw [brought] at ran
    exact effect_rebuild_of_error ran
  | ok entry =>
    rw [brought] at ran
    exact effect_rebuild_of_ok ran

end Run

/-! ### The layers afterwards -/

section Layers

variable {entityType : EntityType} {bench : Workbench} {reference : String}

theorem calls_replaced :
    (bench.replaced entityType reference).index.calls =
      bench.index.calls ++ bench.replacements entityType reference := by
  unfold replaced replacements
  cases bench.store.fetch? entityType reference with
  | error failure => exact (List.append_nil _).symm
  | ok record =>
    cases known : record.id? with
    | none =>
      simp only [known, List.append_nil]
      rfl
    | some id =>
      simp only [known, MemoryIndex.calls_written]
      exact List.append_assoc _ _ _

/-- A record that fails leaves behind what it does not replace. -/
theorem replaced_of_error {failure : SearchError}
    (failed : bench.document entityType reference = .error failure) :
    (bench.replaced entityType reference).index.visible =
        (bench.spared entityType reference).visible ∧
      (bench.replaced entityType reference).index.pending =
        (bench.spared entityType reference).pending := by
  rcases document_eq_error_iff.mp failed with missing | ⟨record, found, refused⟩
  · simp only [replaced, spared, missing]
    exact ⟨rfl, rfl⟩
  · cases known : record.id? with
    | none =>
      simp only [replaced, spared, found, known]
      exact ⟨rfl, rfl⟩
    | some id =>
      have stays : (((bench.index.noted (.remove id)).without id).noted (.insert id)).accept
          record = .error failure := refused
      simp only [replaced, spared, found, known, MemoryIndex.written_of_error stays]
      exact ⟨rfl, rfl⟩

/-- **A record that does not fail is shown at once, with everything else that was pending.** -/
theorem replaced_of_ok {key : String} {record : Record}
    (brought : bench.document entityType reference = .ok (key, record)) :
    (bench.replaced entityType reference).index.visible =
        (bench.spared entityType reference).settled.insert key record ∧
      (bench.replaced entityType reference).index.pending = .empty := by
  obtain ⟨found, kept⟩ := document_eq_ok_iff.mp brought
  have known : record.id? = some key := MemoryIndex.id?_of_accept kept
  have joins : (((bench.index.noted (.remove key)).without key).noted (.insert key)).accept
      record = .ok key := kept
  simp only [replaced, spared, found, known, MemoryIndex.written_of_ok joins, if_true]
  exact ⟨MemoryIndex.settled_holding _ key record, rfl⟩

/-- What is spared was there before. -/
theorem get?_visible_spared {id : String} {record : Record}
    (seen : (bench.spared entityType reference).visible.get? id = some record) :
    bench.index.visible.get? id = some record := by
  unfold spared at seen
  cases found : bench.store.fetch? entityType reference with
  | error failure =>
    rw [found] at seen
    exact seen
  | ok fetched =>
    cases known : fetched.id? with
    | none =>
      simp only [found, known] at seen
      exact seen
    | some own =>
      simp only [found, known] at seen
      exact SortedMap.get?_of_filter seen

end Layers

end CatalogSync.Workbench
