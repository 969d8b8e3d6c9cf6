/-
**Rebuilds that pass over the records that fail.**

* **`rebuild_forced`** — a forced rebuild of a list of records, or of all of them, comes to its
  end whatever the store and the index refuse. It commits the store once, its summary accounts for
  every id of its work list, and after one more commit of the index the documents are those that
  were there before, or none if the index was emptied, with the records that did not fail put over
  them in the order of the work list.

The count of the records that did not fail and the list of those that did are the two parts of the
work list that `fails` tells apart (`summary_accounts`).
-/

import CatalogSync.Proofs.Bulk.Rebuild
import Mathlib.Data.List.Basic

namespace CatalogSync.Workbench

/-- Every id of the work list is counted as indexed or listed as failed. -/
theorem summary_accounts (bench : Workbench) (entityType : EntityType) (ids : List String) :
    (bench.summary entityType ids).indexed + (bench.summary entityType ids).failed =
      (bench.summary entityType ids).total := by
  have parts := List.length_eq_length_filter_add (l := ids) (bench.fails entityType)
  show (ids.filter fun id => !bench.fails entityType id).length +
    (ids.filter (bench.fails entityType)).length = ids.length
  rw [parts, Nat.add_comm]

/-- The documents that are settled after the loop and its commit. -/
theorem settled_rebuilt (bench : Workbench) (entityType : EntityType) (selector : Selector)
    (options : RebuildOptions) (ids : List String) :
    (((bench.prepared selector options).reindexedEach entityType (selector.defers options)
        ids).flushed selector options).index.settled =
      (if selector.clears options then .empty
        else bench.index.visible.overlay bench.index.pending).insertAll
        (bench.documents entityType ids) := by
  rw [settled_flushed, settled_reindexedEach, settled_prepared,
    documents_congr (document_prepared bench selector options)]
  rfl

/-- An idle rebuild has an empty work list and does not empty the index. -/
theorem of_idle {bench : Workbench} {entityType : EntityType} {selector : Selector}
    {options : RebuildOptions} (nothing : bench.idle entityType selector options = true) :
    bench.workList entityType selector options = [] ∧ selector.clears options = false := by
  cases selector with
  | one reference => cases nothing
  | many ids => cases nothing
  | all =>
    obtain ⟨only, empty⟩ := Bool.and_eq_true_iff.mp nothing
    refine ⟨List.isEmpty_iff.mp empty, ?_⟩
    show (options.clearFirst && !options.onlyMissing) = false
    rw [only, Bool.not_true, Bool.and_false]

/-- **A forced rebuild comes to its end and accounts for every id it works on.** -/
theorem rebuild_forced (entityType : EntityType) (selector : Selector) (options : RebuildOptions)
    (bench : Workbench) (bulk : selector.isBulk = true) (forced : options.force = true) :
    let wanted := bench.workList entityType selector options
    let base := if selector.clears options then SortedMap.empty
      else bench.index.visible.overlay bench.index.pending
    ∃ (summary : RebuildSummary) (reached last : Workbench),
      ((engine entityType).rebuild selector options).effect bench = (.ok summary, reached) ∧
      reached.store = { bench.store with commits := bench.store.commits + 1 } ∧
      reached.fetched = bench.fetched ++ wanted ∧
      (if bench.idle entityType selector options then
        summary = .nothingMissing ∧ reached.index = bench.index
      else
        summary.outcome = .completed ∧ summary.total = wanted.length ∧
          summary.indexed + summary.failed = summary.total ∧
          summary.failedIds = wanted.filter (bench.fails entityType)) ∧
      (engine entityType).commit.effect reached = (.ok (), last) ∧
      last.index.visible = base.insertAll (bench.documents entityType wanted) := by
  intro wanted base
  cases nothing : bench.idle entityType selector options with
  | true =>
    obtain ⟨empty, keeps⟩ := of_idle nothing
    have noWork : wanted = [] := empty
    have wholeBase : base = bench.index.visible.overlay bench.index.pending :=
      if_neg (by rw [keeps]; exact Bool.false_ne_true)
    refine ⟨.nothingMissing, bench.ended, _, effect_rebuild_of_idle nothing, rfl, ?_, ?_, rfl, ?_⟩
    · rw [noWork, List.append_nil]
      rfl
    · rw [if_pos rfl]
      exact ⟨rfl, rfl⟩
    · rw [noWork, wholeBase]
      rfl
  | false =>
    refine ⟨bench.summary entityType wanted, _, _,
      effect_rebuild_of_complete bulk nothing (.inl forced), ?_, ?_, ?_, rfl, ?_⟩
    · unfold ended
      rw [store_flushed, store_reindexedEach, store_prepared]
    · show (flushed _ _ _).fetched = _
      rw [fetched_flushed, fetched_reindexedEach, fetched_prepared]
    · rw [if_neg Bool.false_ne_true]
      exact ⟨rfl, rfl, summary_accounts bench entityType wanted, rfl⟩
    · exact (MemoryIndex.visible_committed _).trans
        (settled_rebuilt bench entityType selector options wanted)

/-- Two of five ids fail, the ids `b` and `c`; the others, one of them given twice, are indexed, and
the next commit shows them beside the document that was pending. -/
theorem rebuild_forced_of_troubled :
    Selector.isBulk (.many ["d", "b", "c", "d", "a"]) = true ∧
      RebuildOptions.force ⟨false, true, true, true, false⟩ = true ∧
      ∃ (summary : RebuildSummary) (reached last : Workbench),
        ((engine .package).rebuild (.many ["d", "b", "c", "d", "a"])
          ⟨false, true, true, true, false⟩).effect troubled = (.ok summary, reached) ∧
        reached.store.commits = 1 ∧ summary.total = 5 ∧ summary.failedIds = ["b", "c"] ∧
        (engine .package).commit.effect reached = (.ok (), last) ∧
        last.index.visible.keys = ["a", "d", "z"] := by
  obtain ⟨summary, reached, last, ran, store, -, told, committed, documents⟩ :=
    rebuild_forced .package (.many ["d", "b", "c", "d", "a"]) ⟨false, true, true, true, false⟩
      troubled rfl rfl
  have busy : troubled.idle .package (.many ["d", "b", "c", "d", "a"])
      ⟨false, true, true, true, false⟩ = false := rfl
  rw [busy, if_neg Bool.false_ne_true] at told
  refine ⟨rfl, rfl, summary, reached, last, ran, ?_, told.2.1, ?_, committed, ?_⟩
  · rw [store]
    rfl
  · rw [told.2.2.2]
    decide
  · rw [documents]
    decide

end CatalogSync.Workbench
