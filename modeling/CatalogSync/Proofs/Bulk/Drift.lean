/-
**Rebuilds of what is missing.**

* `keys_documents` — as long as fetching an id finds a record that has it, the documents of a loop
  stand under the ids that did not fail.
* `missing_reindexedEach` — so a loop over the missing ids leaves missing exactly those that
  failed.
* **`rebuild_missing`** — a rebuild of what is missing that comes to its end has repaired all but
  the records it says have failed. A check names the active ones among them, and a second rebuild
  of what is missing works on them and on nothing else: if there are none it does not call the
  index at all.

Only a list of ids without repetitions makes the ids that a check reports come in the order of the
failed ones, so the store must be one that can come about.
-/

import CatalogSync.Proofs.Bulk.Check

namespace CatalogSync

/-- Whether fetching a listed id fails or finds a record that has it. -/
def MemoryStore.Faithful (store : MemoryStore) (entityType : EntityType) : Prop :=
  ∀ id ∈ store.listIds entityType .notDeleted, ∀ record,
    store.fetch? entityType id = .ok record → record.id? = some id

namespace Workbench

variable {entityType : EntityType} {bench : Workbench}

/-! ### The loop over what is missing -/

theorem keys_documents {ids : List String}
    (faithful : ∀ id ∈ ids, ∀ record,
      bench.store.fetch? entityType id = .ok record → record.id? = some id) :
    (bench.documents entityType ids).map Prod.fst =
      ids.filter fun id => !bench.fails entityType id := by
  induction ids with
  | nil => rfl
  | cons id rest ih =>
    have later := ih fun other member => faithful other (List.mem_cons_of_mem id member)
    cases brought : bench.document entityType id with
    | error failure =>
      have refuses : bench.fails entityType id = true := fails_eq_true_iff.mpr ⟨failure, brought⟩
      rw [documents_cons_of_error rest brought, later,
        List.filter_cons_of_neg (by rw [refuses]; exact Bool.false_ne_true)]
    | ok entry =>
      obtain ⟨found, kept⟩ := document_eq_ok_iff.mp brought
      have own : entry.1 = id := Option.some.inj <|
        (MemoryIndex.id?_of_accept kept).symm.trans (faithful id List.mem_cons_self entry.2 found)
      have passes : bench.fails entityType id = false := fails_eq_false_iff.mpr ⟨entry, brought⟩
      rw [documents_cons_of_ok rest brought, List.map_cons, own, later,
        List.filter_cons_of_pos (by rw [passes]; rfl)]

/-- **After a loop over the missing ids those that failed are missing, and no others.** -/
theorem missing_reindexedEach (nothing : bench.index.pending = .empty) {ids : List String}
    (faithful : ∀ id ∈ ids, ∀ record,
      bench.store.fetch? entityType id = .ok record → record.id? = some id) :
    (bench.reindexedEach entityType false (bench.missing ids)).missing ids =
      (bench.missing ids).filter (bench.fails entityType) := by
  have visible : (bench.reindexedEach entityType false (bench.missing ids)).index.visible =
      bench.index.visible.insertAll (bench.documents entityType (bench.missing ids)) := by
    have settles := settled_reindexedEach entityType false bench (bench.missing ids)
    rw [MemoryIndex.settled_of_pending_empty nothing, MemoryIndex.settled_of_pending_empty
      (pending_reindexedEach entityType bench nothing (bench.missing ids))] at settles
    exact settles
  have keys : (bench.documents entityType (bench.missing ids)).map Prod.fst =
      (bench.missing ids).filter fun id => !bench.fails entityType id :=
    keys_documents fun id member => faithful id (List.mem_filter.mp member).1
  show ids.filter _ = (ids.filter _).filter _
  rw [List.filter_filter]
  refine List.filter_congr fun id member => ?_
  rw [visible, SortedMap.contains_insertAll, keys]
  cases seen : bench.index.visible.contains id with
  | true => simp
  | false =>
    have among : id ∈ bench.missing ids := List.mem_filter.mpr ⟨member, by rw [seen]; rfl⟩
    simp [among]

/-! ### The whole rebuild -/

/-- A rebuild that is not idle and comes to its end was forced, or met no record that fails. -/
theorem complete_of_ok {selector : Selector} {options : RebuildOptions} {summary : RebuildSummary}
    {reached : Workbench} (bulk : selector.isBulk = true)
    (ran : ((engine entityType).rebuild selector options).effect bench = (.ok summary, reached)) :
    options.force = true ∨
      ∀ id ∈ bench.workList entityType selector options, bench.fails entityType id = false := by
  cases unforced : options.force with
  | true => exact .inl rfl
  | false =>
    refine .inr ?_
    rcases sound_or_stops bench entityType (bench.workList entityType selector options) with
      sound | ⟨front, id, rest, failure, work, sound, failed⟩
    · exact sound
    · rw [effect_rebuild_of_abort bulk unforced work sound failed] at ran
      cases ran

/-- What a rebuild of what is missing leaves behind: nothing pending, the records as they were, and
readers still do not see those that failed. -/
theorem missing_of_rebuild {options : RebuildOptions} {summary : RebuildSummary}
    {reached : Workbench} (faithful : bench.store.Faithful entityType)
    (nothing : bench.index.pending = .empty) (only : options.onlyMissing = true)
    (atOnce : options.deferCommit = false)
    (ran : ((engine entityType).rebuild .all options).effect bench = (.ok summary, reached)) :
    reached.store.records = bench.store.records ∧
      reached.missing (bench.store.listIds entityType .notDeleted) = summary.failedIds := by
  have work := workList_of_onlyMissing only bench entityType
  cases idles : bench.idle entityType .all options with
  | true =>
    rw [effect_rebuild_of_idle idles] at ran
    cases ran
    rw [idle_of_onlyMissing only] at idles
    exact ⟨rfl, List.isEmpty_iff.mp idles⟩
  | false =>
    rw [effect_rebuild_of_complete rfl idles (complete_of_ok rfl ran),
      prepared_of_onlyMissing only, work] at ran
    obtain ⟨counted, left⟩ := Prod.mk.inj ran
    rw [← left, ← Except.ok.inj counted]
    have defers : Selector.defers .all options = false := atOnce
    rw [defers]
    have stays := congrArg MemoryStore.records (store_reindexedEach entityType false bench
      (bench.missing (bench.store.listIds entityType .notDeleted)))
    exact ⟨stays, missing_reindexedEach nothing faithful⟩

/-- **A rebuild of what is missing repairs all but what fails, and doing it again repairs no
more.** -/
theorem rebuild_missing (entityType : EntityType) (options : RebuildOptions)
    (bench reached : Workbench) (summary : RebuildSummary)
    (reachable : bench.store.Reachable) (faithful : bench.store.Faithful entityType)
    (nothing : bench.index.pending = .empty) (only : options.onlyMissing = true)
    (atOnce : options.deferCommit = false)
    (ran : ((engine entityType).rebuild .all options).effect bench = (.ok summary, reached)) :
    let failed := summary.failedIds
    reached.missing (reached.store.listIds entityType .notDeleted) = failed ∧
      (∃ report, (engine entityType).check.effect reached = (.ok report, reached) ∧
        report.missing.map (·.id) =
          failed.filter fun id => decide (id ∈ reached.store.listIds entityType .active)) ∧
      ∀ again : RebuildOptions, again.onlyMissing = true →
        ((engine entityType).rebuildAll again).effect reached =
          (if failed.isEmpty then (.ok .nothingMissing, reached)
          else ((engine entityType).process again again.deferCommit failed).effect reached) ∧
        (failed = [] → ∃ last, ((engine entityType).rebuild .all again).effect reached =
          (.ok .nothingMissing, last) ∧ last.index = reached.index) := by
  intro failed
  obtain ⟨same, left⟩ := missing_of_rebuild faithful nothing only atOnce ran
  have lists : reached.store.listIds entityType = bench.store.listIds entityType := by
    funext scope
    unfold MemoryStore.listIds
    rw [same]
  have missed : reached.missing (reached.store.listIds entityType .notDeleted) = failed := by
    rw [lists]
    exact left
  refine ⟨missed, ⟨reached.report entityType, effect_check reached, ?_⟩, fun again onlyAgain => ?_⟩
  · rw [missing_reported, ← missed, lists]
    unfold missing
    rw [List.filter_comm, reachable.sound.active_listIds]
  · have work := (workList_of_onlyMissing onlyAgain reached entityType).trans missed
    have idles := idle_of_onlyMissing onlyAgain reached entityType
    rw [missed] at idles
    constructor
    · rw [effect_rebuildAll, idles, work, prepared_of_onlyMissing onlyAgain]
    · intro none
      exact ⟨reached.ended, effect_rebuild_of_idle (by rw [idles, none]; rfl), rfl⟩

/-- The four datasets with `c` a draft and nothing in the index. -/
def drifted : Workbench :=
  { troubled with
    index := troubled.index.cleared
    store := troubled.store.setState .package "c" .draft }

/-- Of the four records `b` and `c` fail; they are still missing after the rebuild, of which a check
sees the active one, and the next rebuild works on these two. -/
theorem rebuild_missing_of_drifted :
    drifted.store.Reachable ∧ drifted.store.Faithful .package ∧
      drifted.index.pending = .empty ∧
      RebuildOptions.onlyMissing ⟨true, true, false, true, false⟩ = true ∧
      RebuildOptions.deferCommit ⟨true, true, false, true, false⟩ = false ∧
      ∃ (reached : Workbench) (report : CheckReport),
        ((engine .package).rebuild .all ⟨true, true, false, true, false⟩).effect drifted =
          (.ok ⟨4, 2, ["b", "c"], .completed⟩, reached) ∧
        reached.missing (reached.store.listIds .package .notDeleted) = ["b", "c"] ∧
        (engine .package).check.effect reached = (.ok report, reached) ∧
        report.missing.map (·.id) = ["b"] ∧
        ((engine .package).rebuildAll ⟨true, false, true, false, true⟩).effect reached =
          ((engine .package).process ⟨true, false, true, false, true⟩ true ["b", "c"]).effect
            reached := by
  have reachable : drifted.store.Reachable :=
    .setState _ _ _ (.failFetch _
      (List.foldlRecOn _ _ .empty fun _ filled _ _ => .put _ _ _ _ filled))
  have faithful : drifted.store.Faithful .package := by
    have each : ∀ id ∈ drifted.store.listIds .package .notDeleted,
        (drifted.store.fetch? .package id).toOption.all (fun record => record.id? == some id) =
          true := by decide
    intro id member record found
    have own := each id member
    rw [found] at own
    exact beq_iff_eq.mp own
  have ran : ((engine .package).rebuild .all ⟨true, true, false, true, false⟩).effect drifted =
      (.ok ⟨4, 2, ["b", "c"], .completed⟩, _) :=
    effect_rebuild_of_complete rfl rfl (.inl rfl)
  obtain ⟨missed, ⟨report, checked, reported⟩, again⟩ :=
    rebuild_missing .package ⟨true, true, false, true, false⟩ drifted _ _ reachable faithful rfl rfl
      rfl ran
  exact ⟨reachable, faithful, rfl, rfl, rfl, _, report, ran, missed, checked, reported,
    (again ⟨true, false, true, false, true⟩ rfl).1⟩

end Workbench

end CatalogSync
