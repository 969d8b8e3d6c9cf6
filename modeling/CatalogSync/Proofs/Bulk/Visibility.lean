/-
**What readers see after a rebuild that holds its writes back.**

* `remaining` — the index without the documents that a rebuild removes.
* `HeldBack` — readers see what remains and nothing else, what was pending and remains is pending
  still, and the records that the rebuild worked on are seen after the next commit of the index.
* **`rebuild_visibility`** — a rebuild of a list of records, or of all of them, that is to hold its
  writes back does so, whether it comes to its end or not. A rebuild of one record does so only if
  it fails: otherwise it commits the index although it was told not to, so that readers see that
  record at once and everything that was pending besides.
-/

import CatalogSync.Proofs.Bulk.Abort
import CatalogSync.Proofs.Bulk.Forced
import CatalogSync.Proofs.Bulk.Single

namespace CatalogSync.Workbench

/-- The index without the documents that a rebuild removes: those that answer to the id of a single
record, or all of them if the rebuild empties the index first. -/
def remaining (bench : Workbench) (entityType : EntityType) (selector : Selector)
    (options : RebuildOptions) : MemoryIndex :=
  match selector with
  | .one reference => bench.spared entityType reference
  | .many _ => bench.index
  | .all => (bench.prepared .all options).index

/-- What a rebuild left behind that held its writes back. -/
structure HeldBack (bench : Workbench) (entityType : EntityType) (selector : Selector)
    (options : RebuildOptions) (outcome : Except SearchError RebuildSummary × Workbench) :
    Prop where
  /-- Readers see what remains. -/
  visible : outcome.2.index.visible = (bench.remaining entityType selector options).visible
  /-- All of it they saw before. -/
  seen : ∀ id record, outcome.2.index.visible.get? id = some record →
    bench.index.visible.get? id = some record
  /-- What was pending and remains is pending still. -/
  pending : ∀ id, (bench.remaining entityType selector options).pending.contains id = true →
    outcome.2.index.pending.contains id = true
  /-- The index was not told to commit. -/
  uncommitted : ∃ made, outcome.2.index.calls = bench.index.calls ++ made ∧
    .commit ∉ made ∧ ∀ id, .update id false ∉ made
  /-- Readers see the records that the rebuild worked on after the next commit. -/
  later : ∃ worked, worked <+: bench.workList entityType selector options ∧
    (∀ summary, outcome.1 = .ok summary →
      worked = bench.workList entityType selector options) ∧
    ∃ last, (engine entityType).commit.effect outcome.2 = (.ok (), last) ∧
      last.index.visible = (bench.remaining entityType selector options).settled.insertAll
        (bench.documents entityType worked)

variable {entityType : EntityType} {bench : Workbench} {options : RebuildOptions}

/-- What remains was there before. -/
theorem get?_visible_remaining (selector : Selector) {id : String} {record : Record}
    (seen : (bench.remaining entityType selector options).visible.get? id = some record) :
    bench.index.visible.get? id = some record := by
  cases selector with
  | one reference => exact get?_visible_spared seen
  | many ids => exact seen
  | all =>
    have shown : (bench.prepared .all options).index.visible.get? id = some record := seen
    unfold prepared at shown
    by_cases clears : Selector.clears .all options = true
    · rw [if_pos clears] at shown
      cases shown
    · rw [if_neg clears] at shown
      exact shown

/-! ### A rebuild of a list of records, or of all of them -/

/-- A loop that holds its writes back makes no call that commits them. -/
theorem deferred_calls (bench : Workbench) (clears : Bool) (worked : List String) :
    let made := (if clears then [.clear] else []) ++ worked.flatMap (bench.upserts entityType true)
    .commit ∉ made ∧ ∀ id, IndexCall.update id false ∉ made := by
  have each {call : IndexCall} (member : call ∈ (if clears then [.clear] else []) ++
      worked.flatMap (bench.upserts entityType true)) : call = .clear ∨ ∃ own,
        call = .update own true := by
    rcases List.mem_append.mp member with cleared | written
    · cases clears with
      | true => exact .inl (List.mem_singleton.mp cleared)
      | false => cases cleared
    · obtain ⟨wanted, -, called⟩ := List.mem_flatMap.mp written
      exact .inr (update_of_mem_upserts called)
  constructor
  · intro member
    rcases each member with same | ⟨own, same⟩
    · cases same
    · cases same
  · intro id member
    rcases each member with same | ⟨own, same⟩
    · cases same
    · cases same

section Bulk

variable (entityType : EntityType) (bench : Workbench) {selector : Selector}
  (bulk : selector.isBulk = true)
include bulk

theorem remaining_of_bulk (options : RebuildOptions) :
    bench.remaining entityType selector options = (bench.prepared selector options).index := by
  cases selector with
  | one reference => cases bulk
  | many ids => rfl
  | all => rfl

/-- Such a rebuild leaves behind in the index what its loop does with the ids that it worked on. -/
theorem index_rebuild_of_bulk (deferred : options.deferCommit = true) :
    ∃ worked, worked <+: bench.workList entityType selector options ∧
      (∀ summary, (((engine entityType).rebuild selector options).effect bench).1 = .ok summary →
        worked = bench.workList entityType selector options) ∧
      (((engine entityType).rebuild selector options).effect bench).2.index =
        ((bench.prepared selector options).reindexedEach entityType true worked).index := by
  have defers : selector.defers options = true := Selector.defers_of_deferred deferred selector
  have complete (busy : bench.idle entityType selector options = false)
      (passes : options.force = true ∨
        ∀ id ∈ bench.workList entityType selector options, bench.fails entityType id = false) :
      (((engine entityType).rebuild selector options).effect bench).2.index =
        ((bench.prepared selector options).reindexedEach entityType true
          (bench.workList entityType selector options)).index := by
    rw [effect_rebuild_of_complete bulk busy passes, defers]
    unfold ended flushed
    rw [Selector.flushes_of_deferred deferred selector, if_neg Bool.false_ne_true]
  cases nothing : bench.idle entityType selector options with
  | true =>
    obtain ⟨empty, keeps⟩ := of_idle nothing
    refine ⟨[], List.nil_prefix, fun _ _ => empty.symm, ?_⟩
    rw [effect_rebuild_of_idle nothing]
    unfold prepared
    rw [keeps, if_neg Bool.false_ne_true]
    rfl
  | false =>
    cases unforced : options.force with
    | true =>
      exact ⟨_, List.prefix_rfl, fun _ _ => rfl, complete nothing (.inl unforced)⟩
    | false =>
      rcases sound_or_stops bench entityType (bench.workList entityType selector options) with
        sound | ⟨front, id, rest, failure, work, sound, failed⟩
      · exact ⟨_, List.prefix_rfl, fun _ _ => rfl, complete nothing (.inr sound)⟩
      · have stopped := effect_rebuild_of_abort bulk unforced work sound failed
        refine ⟨front ++ [id], ⟨rest, by rw [work, List.append_assoc]; rfl⟩, ?_, ?_⟩
        · intro summary ended
          rw [stopped] at ended
          cases ended
        · rw [stopped, defers]

/-- **Such a rebuild holds its writes back if it is told to.** -/
theorem heldBack_of_bulk (deferred : options.deferCommit = true) :
    bench.HeldBack entityType selector options
      (((engine entityType).rebuild selector options).effect bench) := by
  obtain ⟨worked, front, whole, reached⟩ := index_rebuild_of_bulk entityType bench bulk deferred
  have remains := remaining_of_bulk entityType bench bulk options
  have visible : (((engine entityType).rebuild selector options).effect bench).2.index.visible =
      (bench.remaining entityType selector options).visible := by
    rw [reached, remains, visible_reindexedEach]
  have calls : (((engine entityType).rebuild selector options).effect bench).2.index.calls =
      bench.index.calls ++ ((if selector.clears options then [.clear] else []) ++
        worked.flatMap ((bench.prepared selector options).upserts entityType true)) := by
    rw [reached, calls_reindexedEach, calls_prepared, List.append_assoc]
  refine ⟨visible, fun id record shown => ?_, fun id held => ?_,
    ⟨_, calls, deferred_calls _ _ worked⟩, worked, front, whole, _, rfl, ?_⟩
  · rw [visible] at shown
    exact get?_visible_remaining selector shown
  · rw [reached, pending_reindexedEach_deferred, SortedMap.contains_insertAll, ← remains, held,
      Bool.true_or]
  · show (((engine entityType).rebuild selector options).effect bench).2.index.settled = _
    rw [reached, settled_reindexedEach, ← remains, documents_congr
      (document_prepared bench selector options)]

end Bulk

/-! ### A rebuild of one record -/

theorem heldBack_of_failed {reference : String} {failure : SearchError}
    (failed : bench.document entityType reference = .error failure) :
    bench.HeldBack entityType (.one reference) options
      (.error failure, bench.replaced entityType reference) := by
  obtain ⟨visible, pending⟩ := replaced_of_error failed
  refine ⟨visible, fun id record shown => ?_, fun id held => ?_, ⟨_, calls_replaced, ?_⟩,
    [], List.nil_prefix, fun _ ended => (by cases ended), _, rfl, ?_⟩
  · rw [visible] at shown
    exact get?_visible_spared shown
  · rw [pending]
    exact held
  · unfold replacements
    cases bench.store.fetch? entityType reference with
    | error problem => simp
    | ok record =>
      cases known : record.id? with
      | none => simp [known]
      | some id => simp [known]
  · show (bench.replaced entityType reference).index.settled = _
    unfold MemoryIndex.settled
    rw [visible, pending]
    rfl

/-! ### Every rebuild -/

/-- **A rebuild that is to hold its writes back does so, but for one of a single record that does
not fail: it shows that record at once, and everything that was pending.** -/
theorem rebuild_visibility (entityType : EntityType) (options : RebuildOptions)
    (bench : Workbench) (deferred : options.deferCommit = true) :
    (∀ selector, selector.isBulk = true →
      bench.HeldBack entityType selector options
        (((engine entityType).rebuild selector options).effect bench)) ∧
    ∀ reference,
      let outcome := ((engine entityType).rebuild (.one reference) options).effect bench
      match bench.document entityType reference with
      | .error failure =>
        outcome.1 = .error failure ∧
          bench.HeldBack entityType (.one reference) options outcome
      | .ok (key, record) =>
        outcome.1 = .ok single ∧
          outcome.2.index.visible =
            (bench.remaining entityType (.one reference) options).settled.insert key record ∧
          outcome.2.index.pending = .empty := by
  refine ⟨fun _ bulk => heldBack_of_bulk entityType bench bulk deferred, fun reference => ?_⟩
  rw [effect_rebuild_one]
  cases brought : bench.document entityType reference with
  | error failure => exact ⟨rfl, heldBack_of_failed brought⟩
  | ok entry =>
    obtain ⟨visible, pending⟩ := replaced_of_ok brought
    exact ⟨rfl, visible, pending⟩

/-- Told to hold its writes back, a rebuild of `a` and `d` leaves readers without either, and a
rebuild of `a` alone shows it, with the document that was pending. -/
theorem rebuild_visibility_of_troubled :
    RebuildOptions.deferCommit ⟨false, false, true, false, true⟩ = true ∧
      troubled.HeldBack .package (.many ["a", "d"]) ⟨false, false, true, false, true⟩
        (((engine .package).rebuild (.many ["a", "d"])
          ⟨false, false, true, false, true⟩).effect troubled) ∧
      ∃ reached : Workbench,
        ((engine .package).rebuild (.one "a") ⟨false, false, true, false, true⟩).effect troubled =
          (.ok single, reached) ∧
        reached.index.visible.keys = ["a", "z"] ∧ reached.index.pending = .empty := by
  obtain ⟨held, alone⟩ :=
    rebuild_visibility .package ⟨false, false, true, false, true⟩ troubled rfl
  obtain ⟨ran, visible, pending⟩ := alone "a"
  refine ⟨rfl, held (.many ["a", "d"]) rfl, _, Prod.ext ran rfl, ?_, pending⟩
  refine (congrArg SortedMap.keys visible).trans ?_
  decide

/-- So it does not hold of every rebuild that it leaves readers with what they saw before. -/
theorem rebuild_shows :
    ¬ ∀ (entityType : EntityType) (selector : Selector) (options : RebuildOptions)
        (bench : Workbench), options.deferCommit = true → ∀ id record,
      (((engine entityType).rebuild selector options).effect bench).2.index.visible.get? id =
          some record →
        bench.index.visible.get? id = some record := by
  intro unseen
  have shown := unseen .package (.one "a") ⟨false, false, true, false, true⟩ troubled rfl "z"
    (.idOnly "z") rfl
  cases shown

end CatalogSync.Workbench
