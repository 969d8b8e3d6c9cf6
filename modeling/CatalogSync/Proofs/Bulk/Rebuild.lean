/-
**Rebuilding a list of records, or all of them.**

* `Selector.isBulk` — whether a rebuild runs through the loop. For such a rebuild, `defers` says
  whether its writes are held back, `clears` whether the index is emptied before the loop, and
  `flushes` whether it is committed after it.
* `workList` — the ids that a rebuild works on, and `idle`, whether it finds nothing to do.
* `effect_rebuild_of_idle` — an idle rebuild only ends the session of the store.
* **`effect_rebuild_of_complete`** — any other one, if it is forced or no record fails, is its
  loop on the prepared workbench, followed by the flush of the index and the end of the store's
  session.
* **`effect_rebuild_of_abort`** — one that is not forced and meets a record that fails is its loop
  up to that record, with nothing after it.
-/

import CatalogSync.Proofs.Bulk.Loop

namespace CatalogSync

namespace Selector

/-- Whether a rebuild goes through a list of ids, given or enumerated. -/
def isBulk : Selector → Bool
  | .one _ => false
  | .many _ => true
  | .all => true

/-- Whether the writes of the loop are held back. -/
def defers (selector : Selector) (options : RebuildOptions) : Bool :=
  match selector with
  | .all => options.deferCommit
  | _ => true

/-- Whether the index is emptied before the loop. -/
def clears (selector : Selector) (options : RebuildOptions) : Bool :=
  match selector with
  | .all => options.clearFirst && !options.onlyMissing
  | _ => false

/-- Whether the index is committed after the loop. -/
def flushes (selector : Selector) (options : RebuildOptions) : Bool :=
  match selector with
  | .many _ => !options.deferCommit
  | _ => false

section Deferred

variable {options : RebuildOptions} (deferred : options.deferCommit = true) (selector : Selector)
include deferred

theorem defers_of_deferred : selector.defers options = true := by
  cases selector with
  | one reference => rfl
  | many ids => rfl
  | all => exact deferred

theorem flushes_of_deferred : selector.flushes options = false := by
  cases selector with
  | one reference => rfl
  | many ids => exact congrArg not deferred
  | all => rfl

end Deferred

end Selector

namespace Workbench

/-- The ids of a list that readers of the index do not see. -/
def missing (bench : Workbench) (ids : List String) : List String :=
  ids.filter fun id => !bench.index.visible.contains id

/-- The ids that a rebuild works on. -/
def workList (bench : Workbench) (entityType : EntityType) (selector : Selector)
    (options : RebuildOptions) : List String :=
  match selector with
  | .one reference => [reference]
  | .many ids => ids
  | .all =>
    if options.onlyMissing then bench.missing (bench.store.listIds entityType .notDeleted)
    else bench.store.listIds entityType .notDeleted

/-- Whether a rebuild of what is missing finds nothing to do. -/
def idle (bench : Workbench) (entityType : EntityType) (selector : Selector)
    (options : RebuildOptions) : Bool :=
  match selector with
  | .all => options.onlyMissing && (bench.workList entityType .all options).isEmpty
  | _ => false

/-- The workbench as the loop finds it. -/
def prepared (bench : Workbench) (selector : Selector) (options : RebuildOptions) : Workbench :=
  if selector.clears options then { bench with index := (bench.index.noted .clear).cleared }
  else bench

/-- The workbench after the loop is followed by its commit. -/
def flushed (bench : Workbench) (selector : Selector) (options : RebuildOptions) : Workbench :=
  if selector.flushes options then { bench with index := (bench.index.noted .commit).committed }
  else bench

/-! ### Before and after the loop -/

section Frame

variable (bench : Workbench) (selector : Selector) (options : RebuildOptions)

@[simp]
theorem document_prepared : (bench.prepared selector options).document = bench.document := by
  unfold prepared
  split
  · exact document_congr rfl rfl
  · rfl

@[simp]
theorem fails_prepared : (bench.prepared selector options).fails = bench.fails := by
  funext entityType id
  unfold fails
  rw [document_prepared]

@[simp]
theorem store_prepared : (bench.prepared selector options).store = bench.store := by
  unfold prepared
  split
  · rfl
  · rfl

@[simp]
theorem fetched_prepared : (bench.prepared selector options).fetched = bench.fetched := by
  unfold prepared
  split
  · rfl
  · rfl

/-- An emptied index has no settled documents; another one keeps them. -/
theorem settled_prepared :
    (bench.prepared selector options).index.settled =
      if selector.clears options then .empty else bench.index.settled := by
  unfold prepared
  split
  · rfl
  · rfl

@[simp]
theorem store_flushed : (bench.flushed selector options).store = bench.store := by
  unfold flushed
  split
  · rfl
  · rfl

@[simp]
theorem fetched_flushed : (bench.flushed selector options).fetched = bench.fetched := by
  unfold flushed
  split
  · rfl
  · rfl

@[simp]
theorem refused_flushed :
    (bench.flushed selector options).index.refused = bench.index.refused := by
  unfold flushed
  split
  · rfl
  · rfl

@[simp]
theorem settled_flushed :
    (bench.flushed selector options).index.settled = bench.index.settled := by
  unfold flushed
  split
  · rfl
  · rfl

end Frame

section OnlyMissing

variable {options : RebuildOptions} (only : options.onlyMissing = true) (bench : Workbench)
include only

/-- A rebuild of what is missing empties nothing, even if it is told to. -/
theorem prepared_of_onlyMissing : bench.prepared .all options = bench := by
  unfold prepared Selector.clears
  rw [only, Bool.not_true, Bool.and_false]
  rfl

theorem workList_of_onlyMissing (entityType : EntityType) :
    bench.workList entityType .all options =
      bench.missing (bench.store.listIds entityType .notDeleted) := if_pos only

/-- A rebuild of what is missing is idle if nothing is. -/
theorem idle_of_onlyMissing (entityType : EntityType) :
    bench.idle entityType .all options =
      (bench.missing (bench.store.listIds entityType .notDeleted)).isEmpty := by
  unfold idle
  rw [workList_of_onlyMissing only, only, Bool.true_and]

end OnlyMissing

/-! ### The loop and its summary -/

section Process

variable {entityType : EntityType} (deferCommit : Bool) {options : RebuildOptions}
  (bench : Workbench)

/-- The summary of a loop that came to its end. -/
def summary (bench : Workbench) (entityType : EntityType) (ids : List String) : RebuildSummary :=
  ⟨ids.length, (ids.filter fun id => !bench.fails entityType id).length,
    ids.filter (bench.fails entityType), .completed⟩

theorem effect_process_of_complete {ids : List String}
    (complete : options.force = true ∨ ∀ id ∈ ids, bench.fails entityType id = false) :
    ((engine entityType).process options deferCommit ids).effect bench =
      (.ok (bench.summary entityType ids), bench.reindexedEach entityType deferCommit ids) := by
  have looped := effect_reindexEach_of_complete deferCommit options ids.length complete 0 ⟨0, []⟩
  simp only [Nat.zero_add, List.nil_append] at looped
  unfold Engine.process
  refine (Action.effect_bind_of_ok rfl _).trans ((Action.effect_bind_of_ok looped _).trans ?_)
  split
  · rfl
  · rfl

theorem effect_process_of_abort (unforced : options.force = false) {front : List String}
    {id : String} {failure : SearchError} (rest : List String)
    (sound : ∀ earlier ∈ front, bench.fails entityType earlier = false)
    (failed : bench.document entityType id = .error failure) :
    ((engine entityType).process options deferCommit (front ++ id :: rest)).effect bench =
      (.error (.rebuild id failure.message),
        bench.reindexedEach entityType deferCommit (front ++ [id])) := by
  have looped := effect_reindexEach_of_abort deferCommit options (front ++ id :: rest).length
    unforced rest sound failed 0 ⟨0, []⟩
  unfold Engine.process
  exact (Action.effect_bind_of_ok rfl _).trans (Action.effect_bind_of_error looped _)

end Process

/-! ### The whole rebuild -/

section Rebuild

variable {entityType : EntityType} {selector : Selector} {options : RebuildOptions}
  {bench : Workbench}

theorem effect_missingFromIndex (ids : List String) :
    ((engine entityType).missingFromIndex ids).effect bench = (.ok (bench.missing ids), bench) := by
  refine (Action.effect_bind_of_ok (effect_ids bench) _).trans ?_
  unfold missing
  simp only [Action.effect_pure, SortedMap.keys_contains]

/-- What follows the enumeration of a rebuild of all records. -/
theorem effect_rebuildAll :
    ((engine entityType).rebuildAll options).effect bench =
      if bench.idle entityType .all options then (.ok .nothingMissing, bench)
      else
        ((engine entityType).process options options.deferCommit
          (bench.workList entityType .all options)).effect (bench.prepared .all options) := by
  unfold Engine.rebuildAll
  refine (Action.effect_bind_of_ok (Engine.effect_enter .enumerating bench) _).trans
    ((Action.effect_bind_of_ok (effect_enumerate entityType .notDeleted bench) _).trans ?_)
  unfold idle workList prepared Selector.clears
  cases only : options.onlyMissing with
  | true =>
    simp only [Bool.true_and, Bool.not_true, Bool.and_false, if_true, Bool.false_eq_true, if_false]
    refine (Action.effect_bind_of_ok (Engine.effect_enter .diffing bench) _).trans
      ((Action.effect_bind_of_ok (Action.effect_tell _ _ _ bench) _).trans
        ((Action.effect_bind_of_ok (effect_missingFromIndex _) _).trans ?_))
    cases (bench.missing (bench.store.listIds entityType .notDeleted)).isEmpty with
    | true => rfl
    | false => rfl
  | false =>
    simp only [Bool.false_and, Bool.not_false, Bool.and_true, Bool.false_eq_true, if_false]
    refine (Action.effect_bind_of_ok rfl _).trans ?_
    cases options.clearFirst with
    | true => exact (Action.effect_bind_of_ok rfl _).trans (Action.effect_bind_of_ok rfl _)
    | false => rfl

/-- A loop that comes to its end is followed by the commit that goes with it. -/
theorem effect_rebuildSelected_of_ok {summary : RebuildSummary} {reached : Workbench}
    (bulk : selector.isBulk = true) (busy : bench.idle entityType selector options = false)
    (processed : ((engine entityType).process options (selector.defers options)
      (bench.workList entityType selector options)).effect (bench.prepared selector options) =
        (.ok summary, reached)) :
    ((engine entityType).rebuildSelected selector options).effect bench =
      (.ok summary, reached.flushed selector options) := by
  cases selector with
  | one reference => cases bulk
  | many ids =>
    refine (Action.effect_bind_of_ok processed _).trans ?_
    unfold flushed Selector.flushes
    cases options.deferCommit with
    | true => rfl
    | false => rfl
  | all =>
    refine effect_rebuildAll.trans ?_
    rw [busy, if_neg Bool.false_ne_true]
    exact processed

/-- Nothing follows a loop that fails. -/
theorem effect_rebuildSelected_of_error {failure : SearchError} {reached : Workbench}
    (bulk : selector.isBulk = true) (busy : bench.idle entityType selector options = false)
    (processed : ((engine entityType).process options (selector.defers options)
      (bench.workList entityType selector options)).effect (bench.prepared selector options) =
        (.error failure, reached)) :
    ((engine entityType).rebuildSelected selector options).effect bench =
      (.error failure, reached) := by
  cases selector with
  | one reference => cases bulk
  | many ids => exact Action.effect_bind_of_error processed _
  | all =>
    refine effect_rebuildAll.trans ?_
    rw [busy, if_neg Bool.false_ne_true]
    exact processed

/-- A rebuild that comes to its end commits the store once. -/
theorem effect_rebuild_of_ok {summary : RebuildSummary} {reached : Workbench}
    (selected : ((engine entityType).rebuildSelected selector options).effect bench =
      (.ok summary, reached)) :
    ((engine entityType).rebuild selector options).effect bench =
      (.ok summary, reached.ended) :=
  (Action.effect_bind_of_ok rfl _).trans (Action.effect_bind_of_ok selected _)

/-- A rebuild that fails does not commit the store. -/
theorem effect_rebuild_of_error {failure : SearchError} {reached : Workbench}
    (selected : ((engine entityType).rebuildSelected selector options).effect bench =
      (.error failure, reached)) :
    ((engine entityType).rebuild selector options).effect bench = (.error failure, reached) :=
  (Action.effect_bind_of_ok rfl _).trans (Action.effect_bind_of_error selected _)

/-- A rebuild of what is missing that finds nothing to do only ends the session of the store. -/
theorem effect_rebuild_of_idle (nothing : bench.idle entityType selector options = true) :
    ((engine entityType).rebuild selector options).effect bench =
      (.ok .nothingMissing, bench.ended) := by
  cases selector with
  | one reference => cases nothing
  | many ids => cases nothing
  | all =>
    refine effect_rebuild_of_ok (effect_rebuildAll.trans ?_)
    rw [nothing, if_pos rfl]

/-- **A rebuild that is forced, or in which no record fails, comes to its end.** -/
theorem effect_rebuild_of_complete (bulk : selector.isBulk = true)
    (busy : bench.idle entityType selector options = false)
    (complete : options.force = true ∨
      ∀ id ∈ bench.workList entityType selector options, bench.fails entityType id = false) :
    ((engine entityType).rebuild selector options).effect bench =
      (.ok (bench.summary entityType (bench.workList entityType selector options)),
        (((bench.prepared selector options).reindexedEach entityType (selector.defers options)
          (bench.workList entityType selector options)).flushed selector options).ended) := by
  have same := fails_prepared bench selector options
  have summed : (bench.prepared selector options).summary = bench.summary := by
    funext wantedType wanted
    unfold summary
    rw [same]
  have processed := effect_process_of_complete (selector.defers options)
    (bench.prepared selector options) (by rw [same]; exact complete)
  rw [summed] at processed
  exact effect_rebuild_of_ok (effect_rebuildSelected_of_ok bulk busy processed)

/-- **A rebuild that is not forced ends at the first record that fails.** -/
theorem effect_rebuild_of_abort (bulk : selector.isBulk = true) (unforced : options.force = false)
    {front rest : List String} {id : String} {failure : SearchError}
    (work : bench.workList entityType selector options = front ++ id :: rest)
    (sound : ∀ earlier ∈ front, bench.fails entityType earlier = false)
    (failed : bench.document entityType id = .error failure) :
    ((engine entityType).rebuild selector options).effect bench =
      (.error (.rebuild id failure.message),
        (bench.prepared selector options).reindexedEach entityType (selector.defers options)
          (front ++ [id])) := by
  have busy : bench.idle entityType selector options = false := by
    unfold idle
    cases selector with
    | one reference => rfl
    | many ids => rfl
    | all =>
      rw [work]
      simp
  have processed := effect_process_of_abort (selector.defers options)
    (bench.prepared selector options) unforced rest (by rw [fails_prepared]; exact sound)
    (by rw [document_prepared]; exact failed)
  rw [← work] at processed
  exact effect_rebuild_of_error (effect_rebuildSelected_of_error bulk busy processed)

end Rebuild

/-- Four datasets, of which the index refuses `b` and the store cannot fetch `c`. Of the document
that is there already readers see nothing yet. -/
def troubled : Workbench :=
  let store := ["a", "b", "c", "d"].foldl
    (fun store id => store.put .package (.idOnly id) .active none) MemoryStore.empty
  ⟨(MemoryIndex.empty.holding "z" (.idOnly "z")).refuse "b", store.failFetch "c", []⟩

end Workbench

end CatalogSync
