/-
**Rebuilds that stop at the first record that fails.**

* `upserts` — the calls on the index that reindexing a record makes: one if the record was
  fetched, and none otherwise.
* `MemoryIndex.replay` — a run of updates on an index alone, which is emptied before if that was
  asked for.
* **`rebuild_unforced`** — a rebuild that is not forced and meets a record that fails stops there
  with an error that names it. What it leaves behind in the index is the replay of the records
  before that one; nothing after it was fetched or written, no commit was called, and the session
  of the store is still open. If no record fails the rebuild does what a forced one does.
-/

import CatalogSync.Proofs.Bulk.Rebuild
import CatalogSync.Feed

namespace CatalogSync

/-- Empties an index, if asked to, and brings records to it one after the other. -/
def MemoryIndex.replay (clears deferCommit : Bool) (records : List Record) :
    Action MemoryIndex Unit :=
  Feed.inTurn ((if clears then [writer.clear] else []) ++
    records.map fun record => writer.update record deferCommit)

namespace Workbench

variable {entityType : EntityType} {bench : Workbench}

/-! ### The calls that a loop makes -/

/-- The calls on the index that reindexing a record makes. -/
def upserts (bench : Workbench) (entityType : EntityType) (deferCommit : Bool) (id : String) :
    List IndexCall :=
  match bench.store.fetch? entityType id with
  | .error _ => []
  | .ok record => [.update (record.id?.getD "") deferCommit]

theorem upserts_congr {first second : Workbench} (stores : first.store = second.store) :
    first.upserts = second.upserts := by
  funext entityType deferCommit id
  unfold upserts
  rw [stores]

/-- Such a call is an update, held back or not as the loop is told. -/
theorem update_of_mem_upserts {deferCommit : Bool} {id : String} {call : IndexCall}
    (member : call ∈ bench.upserts entityType deferCommit id) :
    ∃ own, call = .update own deferCommit := by
  unfold upserts at member
  cases found : bench.store.fetch? entityType id with
  | error failure =>
    rw [found] at member
    cases member
  | ok record =>
    rw [found] at member
    exact ⟨_, List.mem_singleton.mp member⟩

theorem commit_notMem_upserts (deferCommit : Bool) (id : String) :
    IndexCall.commit ∉ bench.upserts entityType deferCommit id := by
  intro member
  obtain ⟨own, same⟩ := update_of_mem_upserts member
  cases same

theorem calls_reindexed (deferCommit : Bool) (id : String) :
    (bench.reindexed entityType deferCommit id).index.calls =
      bench.index.calls ++ bench.upserts entityType deferCommit id := by
  unfold upserts
  cases found : bench.store.fetch? entityType id with
  | error failure =>
    rw [index_reindexed_of_error found]
    exact (List.append_nil _).symm
  | ok record =>
    rw [index_reindexed_of_ok found, MemoryIndex.calls_written]
    rfl

/-- A loop calls the index once for every record that it could fetch. -/
theorem calls_reindexedEach (deferCommit : Bool) (ids : List String) (bench : Workbench) :
    (bench.reindexedEach entityType deferCommit ids).index.calls =
      bench.index.calls ++ ids.flatMap (bench.upserts entityType deferCommit) := by
  induction ids generalizing bench with
  | nil => exact (List.append_nil _).symm
  | cons id rest ih =>
    rw [reindexedEach_cons, ih, calls_reindexed, List.flatMap_cons, List.append_assoc,
      upserts_congr (store_reindexed entityType deferCommit bench id)]

/-! ### The loop as a replay -/

/-- As long as no record fails, a loop leaves behind in the index what the updates of the fetched
records, one after the other, leave behind there. -/
theorem effect_updates (deferCommit : Bool) {ids : List String} (bench : Workbench)
    (sound : ∀ id ∈ ids, bench.fails entityType id = false) :
    ∃ records : List Record,
      ids.map (bench.store.fetch? entityType) = records.map .ok ∧
      (Feed.inTurn (records.map fun record =>
        MemoryIndex.writer.update record deferCommit)).effect bench.index =
          (.ok (), (bench.reindexedEach entityType deferCommit ids).index) := by
  induction ids generalizing bench with
  | nil => exact ⟨[], rfl, rfl⟩
  | cons id rest ih =>
    obtain ⟨⟨key, record⟩, brought⟩ := fails_eq_false_iff.mp (sound id List.mem_cons_self)
    obtain ⟨found, kept⟩ := document_eq_ok_iff.mp brought
    obtain ⟨records, fetched, ran⟩ := ih (bench.reindexed entityType deferCommit id)
      (by
        intro other member
        rw [fails_reindexed]
        exact sound other (List.mem_cons_of_mem id member))
    rw [store_reindexed] at fetched
    refine ⟨record :: records, ?_, ?_⟩
    · rw [List.map_cons, List.map_cons, found, fetched]
    · have updated := MemoryIndex.effect_update record deferCommit bench.index
      rw [kept, ← index_reindexed_of_ok found] at updated
      exact (Action.effect_bind_of_ok updated _).trans ran

/-- The same for the loop of a rebuild, from the index that the rebuild found. -/
theorem effect_replay (selector : Selector) (options : RebuildOptions) {ids : List String}
    (sound : ∀ id ∈ ids, bench.fails entityType id = false) :
    ∃ records : List Record,
      ids.map (bench.store.fetch? entityType) = records.map .ok ∧
      (MemoryIndex.replay (selector.clears options) (selector.defers options) records).effect
          bench.index =
        (.ok (), ((bench.prepared selector options).reindexedEach entityType
          (selector.defers options) ids).index) := by
  obtain ⟨records, fetched, ran⟩ := effect_updates (selector.defers options)
    (bench.prepared selector options) (by rw [fails_prepared]; exact sound)
  rw [store_prepared] at fetched
  refine ⟨records, fetched, ?_⟩
  unfold MemoryIndex.replay
  cases empties : selector.clears options with
  | true =>
    have start : (bench.prepared selector options).index = (bench.index.noted .clear).cleared := by
      unfold prepared
      rw [empties]
      rfl
    rw [start] at ran
    exact (Action.effect_bind_of_ok (MemoryIndex.effect_clear bench.index) _).trans ran
  | false =>
    have start : (bench.prepared selector options).index = bench.index := by
      unfold prepared
      rw [empties]
      rfl
    rw [start] at ran
    exact ran

theorem calls_prepared (selector : Selector) (options : RebuildOptions) :
    (bench.prepared selector options).index.calls =
      bench.index.calls ++ if selector.clears options then [.clear] else [] := by
  unfold prepared
  cases selector.clears options with
  | true => rfl
  | false => exact (List.append_nil _).symm

/-! ### Stopping -/

/-- What a rebuild leaves behind that stopped at a record, after others that did not fail. -/
structure StoppedAt (bench : Workbench) (entityType : EntityType) (selector : Selector)
    (options : RebuildOptions) (front : List String) (id : String) (reached : Workbench) :
    Prop where
  /-- The session of the store is still open. -/
  store : reached.store = bench.store
  /-- Nothing after the record was fetched. -/
  fetched : reached.fetched = bench.fetched ++ front ++ [id]
  /-- The index was called for the records up to this one, and for no other. -/
  calls : reached.index.calls = bench.index.calls ++
    (if selector.clears options then [.clear] else []) ++
      (front ++ [id]).flatMap (bench.upserts entityType (selector.defers options))
  /-- No commit of the index was among the calls. -/
  uncommitted : ∀ made, reached.index.calls = bench.index.calls ++ made → .commit ∉ made
  /-- Both layers are those that the records before this one leave behind. -/
  layers : ∃ (records : List Record) (replayed : MemoryIndex),
    front.map (bench.store.fetch? entityType) = records.map .ok ∧
    (MemoryIndex.replay (selector.clears options) (selector.defers options) records).effect
      bench.index = (.ok (), replayed) ∧
    reached.index.visible = replayed.visible ∧ reached.index.pending = replayed.pending
  /-- A list of records leaves no trace that readers see. -/
  unseen : ∀ ids, selector = .many ids → reached.index.visible = bench.index.visible

theorem stoppedAt_reindexedEach {selector : Selector} {options : RebuildOptions}
    {front : List String} {id : String} {failure : SearchError}
    (sound : ∀ earlier ∈ front, bench.fails entityType earlier = false)
    (failed : bench.document entityType id = .error failure) :
    bench.StoppedAt entityType selector options front id
      ((bench.prepared selector options).reindexedEach entityType (selector.defers options)
        (front ++ [id])) := by
  have calls : ((bench.prepared selector options).reindexedEach entityType
      (selector.defers options) (front ++ [id])).index.calls =
        bench.index.calls ++ (if selector.clears options then [.clear] else []) ++
          (front ++ [id]).flatMap (bench.upserts entityType (selector.defers options)) := by
    rw [calls_reindexedEach, calls_prepared, upserts_congr (store_prepared bench selector options)]
  refine ⟨?_, ?_, calls, fun made same => ?_, ?_, ?_⟩
  · rw [store_reindexedEach, store_prepared]
  · rw [fetched_reindexedEach, fetched_prepared, List.append_assoc]
  · rw [calls, List.append_assoc] at same
    rw [← List.append_cancel_left same]
    intro member
    rcases List.mem_append.mp member with cleared | written
    · split at cleared
      · simp at cleared
      · simp at cleared
    · obtain ⟨wanted, -, called⟩ := List.mem_flatMap.mp written
      exact commit_notMem_upserts _ wanted called
  · obtain ⟨records, fetched, ran⟩ := effect_replay selector options sound
    refine ⟨records, _, fetched, ran, ?_⟩
    rw [reindexedEach_append]
    have refuses : ((bench.prepared selector options).reindexedEach entityType
        (selector.defers options) front).document entityType id = .error failure := by
      rw [document_reindexedEach, document_prepared]
      exact failed
    exact layers_reindexed_of_error refuses _
  · rintro ids rfl
    exact visible_reindexedEach entityType bench (front ++ [id])

/-- **A rebuild that is not forced stops at the first record that fails, and does what a forced one
does if there is none.** -/
theorem rebuild_unforced (entityType : EntityType) (selector : Selector) (options : RebuildOptions)
    (bench : Workbench) (bulk : selector.isBulk = true) (unforced : options.force = false) :
    (∀ front id rest failure,
      bench.workList entityType selector options = front ++ id :: rest →
      (∀ earlier ∈ front, bench.fails entityType earlier = false) →
      bench.document entityType id = .error failure →
      ∃ reached,
        ((engine entityType).rebuild selector options).effect bench =
          (.error (.rebuild id failure.message), reached) ∧
        bench.StoppedAt entityType selector options front id reached) ∧
    ((∀ id ∈ bench.workList entityType selector options, bench.fails entityType id = false) →
      ((engine entityType).rebuild selector options).effect bench =
        ((engine entityType).rebuild selector { options with force := true }).effect bench) := by
  constructor
  · intro front id rest failure work sound failed
    exact ⟨_, effect_rebuild_of_abort bulk unforced work sound failed,
      stoppedAt_reindexedEach sound failed⟩
  · intro sound
    let forced : RebuildOptions := { options with force := true }
    cases nothing : bench.idle entityType selector options with
    | true =>
      have alike : bench.idle entityType selector forced = true := nothing
      rw [effect_rebuild_of_idle nothing, effect_rebuild_of_idle alike]
    | false =>
      have alike : bench.idle entityType selector forced = false := nothing
      have complete : forced.force = true ∨
          ∀ id ∈ bench.workList entityType selector forced, bench.fails entityType id = false :=
        .inl rfl
      rw [effect_rebuild_of_complete bulk nothing (.inr sound),
        effect_rebuild_of_complete bulk alike complete]
      rfl

/-- Of four ids the second, `b`, fails; the index was emptied before, so that only the first is seen
afterwards, and the other two were neither fetched nor written. -/
theorem rebuild_unforced_of_troubled :
    Selector.isBulk .all = true ∧ RebuildOptions.force ⟨false, false, false, true, true⟩ = false ∧
      troubled.workList .package .all ⟨false, false, false, true, true⟩ =
        ["a"] ++ "b" :: ["c", "d"] ∧
      (∀ earlier ∈ ["a"], troubled.fails .package earlier = false) ∧
      troubled.document .package "b" = .error (MemoryIndex.refusal "b") ∧
      ∃ reached : Workbench,
        ((engine .package).rebuild .all ⟨false, false, false, true, true⟩).effect troubled =
          (.error (.rebuild "b" "Index write error: Injected write failure for b"), reached) ∧
        reached.fetched = ["a", "b"] ∧ reached.store.commits = 0 ∧
        reached.index.calls = [.clear, .update "a" false, .update "b" false] ∧
        reached.index.visible.keys = ["a"] := by
  have work : troubled.workList .package .all ⟨false, false, false, true, true⟩ =
      ["a"] ++ "b" :: ["c", "d"] := by decide
  have sound : ∀ earlier ∈ ["a"], troubled.fails .package earlier = false := by decide
  have failed : troubled.document .package "b" = .error (MemoryIndex.refusal "b") := rfl
  obtain ⟨reached, ran, stopped⟩ :=
    (rebuild_unforced .package .all ⟨false, false, false, true, true⟩ troubled rfl rfl).1
      ["a"] "b" ["c", "d"] _ work sound failed
  have same : (((engine .package).rebuild .all ⟨false, false, false, true, true⟩).effect
      troubled).2 = reached := congrArg Prod.snd ran
  refine ⟨rfl, rfl, work, sound, failed, reached, ran, stopped.fetched, ?_, ?_, ?_⟩
  · rw [stopped.store]
    rfl
  · rw [stopped.calls]
    decide
  · rw [← same]
    decide

end Workbench

end CatalogSync
