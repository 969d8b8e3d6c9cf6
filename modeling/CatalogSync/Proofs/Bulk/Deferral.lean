/-
**Holding writes back changes when they are seen, not what is written.**

* `Alike` — two workbenches with the same store, the same fetches, the same refused ids and the
  same settled documents. They may differ in which of these documents are still pending.
* `Matched` — two runs that yield the same and end on alike workbenches. `Matched.bind` carries this
  through a row of actions.
* `Alike.reindexed`, `matched_reindexEach`, `matched_rebuild` — one record, the loop, and the whole
  rebuild, one of them committing its writes where the other holds them back.
* **`rebuild_deferral`** — so two rebuilds that differ in this alone yield the same, or fail alike,
  and one more commit of the index leaves the same documents visible after both.

The ids that readers do not see are compared before anything is written, on the workbench that both
rebuilds start from; from then on only settled documents and refused ids matter.
-/

import CatalogSync.Proofs.Bulk.Rebuild

namespace CatalogSync.Workbench

/-! ### Alike workbenches -/

/-- Two workbenches that differ at most in which of their documents are still pending, and in the
calls that brought this about. -/
structure Alike (first second : Workbench) : Prop where
  store : first.store = second.store
  fetched : first.fetched = second.fetched
  refused : first.index.refused = second.index.refused
  settled : first.index.settled = second.index.settled

namespace Alike

variable {first second : Workbench}

theorem refl (bench : Workbench) : bench.Alike bench := ⟨rfl, rfl, rfl, rfl⟩

/-- Every record comes to the same on both. -/
theorem document (alike : first.Alike second) : first.document = second.document :=
  document_congr alike.store alike.refused

/-- They stay alike if a record is reindexed on both, held back on one and committed on the other.
-/
theorem reindexed (alike : first.Alike second) (entityType : EntityType)
    (deferFirst deferSecond : Bool) (id : String) :
    (first.reindexed entityType deferFirst id).Alike
      (second.reindexed entityType deferSecond id) := by
  refine ⟨?_, ?_, ?_, ?_⟩
  · rw [store_reindexed, store_reindexed, alike.store]
  · rw [fetched_reindexed, fetched_reindexed, alike.fetched]
  · rw [refused_reindexed, refused_reindexed, alike.refused]
  · have here := settled_reindexedEach entityType deferFirst first [id]
    have there := settled_reindexedEach entityType deferSecond second [id]
    rw [alike.settled, documents_congr alike.document] at here
    exact here.trans there.symm

/-- They stay alike if a loop is followed by its commit on one of them. -/
theorem flushed (alike : first.Alike second) (selector : Selector)
    (options others : RebuildOptions) :
    (first.flushed selector options).Alike (second.flushed selector others) := by
  refine ⟨?_, ?_, ?_, ?_⟩
  · rw [store_flushed, store_flushed, alike.store]
  · rw [fetched_flushed, fetched_flushed, alike.fetched]
  · rw [refused_flushed, refused_flushed, alike.refused]
  · rw [settled_flushed, settled_flushed, alike.settled]

theorem ended (alike : first.Alike second) : first.ended.Alike second.ended := by
  refine ⟨?_, alike.fetched, alike.refused, alike.settled⟩
  unfold Workbench.ended
  rw [alike.store]

end Alike

/-! ### Matched runs -/

/-- Two runs that yield the same, or fail alike, and end on alike workbenches. -/
structure Matched {α : Type} (first second : Except SearchError α × Workbench) : Prop where
  result : first.1 = second.1
  alike : first.2.Alike second.2

/-- Matched runs stay matched if what follows them matches on alike workbenches. -/
theorem Matched.bind {α β : Type} {action other : Action Workbench α}
    {next following : α → Action Workbench β} {first second : Workbench}
    (matched : Matched (action.effect first) (other.effect second))
    (onwards : ∀ value reached reached', Alike reached reached' →
      Matched ((next value).effect reached) ((following value).effect reached')) :
    Matched ((action >>= next).effect first) ((other >>= following).effect second) := by
  rw [Action.effect_bind, Action.effect_bind]
  generalize action.effect first = left at matched ⊢
  generalize other.effect second = right at matched ⊢
  obtain ⟨result, reached⟩ := left
  obtain ⟨result', reached'⟩ := right
  obtain ⟨same, alike⟩ := matched
  obtain rfl : result = result' := same
  cases result with
  | error failure => exact ⟨rfl, alike⟩
  | ok value => exact onwards value reached reached' alike

section Runs

variable (entityType : EntityType) {first second : Workbench} (options : RebuildOptions)
  (one other : Bool)

theorem matched_reindex (alike : first.Alike second) (deferFirst deferSecond : Bool) (id : String) :
    Matched (((engine entityType).reindex deferFirst id).effect first)
      (((engine entityType).reindex deferSecond id).effect second) := by
  rw [effect_reindex, effect_reindex, alike.document]
  exact ⟨rfl, alike.reindexed entityType deferFirst deferSecond id⟩

/-- **The loop meets the same failures, and leaves alike workbenches behind.** -/
theorem matched_reindexEach (alike : first.Alike second) (deferFirst deferSecond : Bool)
    (total position : Nat) (tally : Tally) (ids : List String) :
    Matched
      (((engine entityType).reindexEach { options with deferCommit := one } deferFirst total
        position tally ids).effect first)
      (((engine entityType).reindexEach { options with deferCommit := other } deferSecond total
        position tally ids).effect second) := by
  induction ids generalizing first second position tally with
  | nil => exact ⟨rfl, alike⟩
  | cons id rest ih =>
    rw [Engine.reindexEach, Engine.reindexEach]
    refine Matched.bind ?_ fun _ first second alike => ?_
    · rw [Engine.effect_announce, Engine.effect_announce]
      exact ⟨rfl, alike⟩
    have tried := matched_reindex entityType alike deferFirst deferSecond id
    refine Matched.bind ⟨congrArg Except.ok tried.result, tried.alike⟩ fun result _ _ alike => ?_
    cases result with
    | ok _ => exact ih alike (position + 1) { tally with indexed := tally.indexed + 1 }
    | error failure =>
      refine Matched.bind ⟨rfl, alike⟩ fun _ _ _ alike => ?_
      by_cases forced : options.force = true
      · rw [if_pos forced, if_pos forced]
        exact ih alike (position + 1) { tally with failedIds := tally.failedIds ++ [id] }
      · rw [if_neg forced, if_neg forced]
        refine Matched.bind ⟨rfl, alike⟩ fun _ _ _ alike => ?_
        exact ⟨rfl, alike⟩

theorem matched_process (alike : first.Alike second) (deferFirst deferSecond : Bool)
    (ids : List String) :
    Matched
      (((engine entityType).process { options with deferCommit := one } deferFirst ids).effect
        first)
      (((engine entityType).process { options with deferCommit := other } deferSecond ids).effect
        second) := by
  unfold Engine.process
  refine Matched.bind ⟨rfl, alike⟩ fun _ _ _ alike => ?_
  refine Matched.bind (matched_reindexEach entityType options one other alike deferFirst deferSecond
    ids.length 0 ⟨0, []⟩ ids) fun tally _ _ alike => ?_
  split
  · exact ⟨rfl, alike⟩
  · exact ⟨rfl, alike⟩

end Runs

section Rebuild

variable (entityType : EntityType) (options : RebuildOptions) (one other : Bool)
  (bench : Workbench)

/-- The commit at the end, which only one of the two may have, leaves them alike. -/
theorem matched_rebuildMany (ids : List String) :
    Matched
      (((engine entityType).rebuildMany ids { options with deferCommit := one }).effect bench)
      (((engine entityType).rebuildMany ids { options with deferCommit := other }).effect bench) := by
  unfold Engine.rebuildMany
  refine Matched.bind
    (matched_process entityType options one other (Alike.refl bench) true true ids)
    fun summary first second alike => ?_
  have flushed := alike.flushed (.many ids) { options with deferCommit := one }
    { options with deferCommit := other }
  cases one <;> cases other
  all_goals exact ⟨rfl, flushed⟩

/-- Both find the same ids to work on, since both look before they write. -/
theorem matched_rebuildAll :
    Matched (((engine entityType).rebuildAll { options with deferCommit := one }).effect bench)
      (((engine entityType).rebuildAll { options with deferCommit := other }).effect bench) := by
  rw [effect_rebuildAll, effect_rebuildAll]
  show Matched (if bench.idle entityType .all options then _ else _)
    (if bench.idle entityType .all options then _ else _)
  split
  · exact ⟨rfl, Alike.refl bench⟩
  · exact matched_process entityType options one other (Alike.refl (bench.prepared .all options))
      one other (bench.workList entityType .all options)

theorem matched_rebuildSelected (selector : Selector) :
    Matched
      (((engine entityType).rebuildSelected selector
        { options with deferCommit := one }).effect bench)
      (((engine entityType).rebuildSelected selector
        { options with deferCommit := other }).effect bench) := by
  cases selector with
  | one reference => exact ⟨rfl, Alike.refl _⟩
  | many ids => exact matched_rebuildMany entityType options one other bench ids
  | all => exact matched_rebuildAll entityType options one other bench

theorem matched_rebuild (selector : Selector) :
    Matched
      (((engine entityType).rebuild selector { options with deferCommit := one }).effect bench)
      (((engine entityType).rebuild selector { options with deferCommit := other }).effect bench) := by
  unfold Engine.rebuild
  rw [Action.effect_bind_of_ok (Action.effect_tell _ _ _ bench),
    Action.effect_bind_of_ok (Action.effect_tell _ _ _ bench)]
  refine Matched.bind (matched_rebuildSelected entityType options one other bench selector)
    fun summary _ _ alike => ?_
  refine Matched.bind ⟨rfl, alike⟩ fun _ _ _ alike => ?_
  refine Matched.bind ⟨rfl, alike.ended⟩ fun _ _ _ alike => ?_
  refine Matched.bind ⟨rfl, alike⟩ fun _ _ _ alike => ?_
  refine Matched.bind ⟨rfl, alike⟩ fun _ _ _ alike => ?_
  exact ⟨rfl, alike⟩

/-- **Two rebuilds that differ in when they commit the index yield the same, and leave the same
documents visible after one more commit.** -/
theorem rebuild_deferral (selector : Selector) :
    let run (deferCommit : Bool) :=
      ((engine entityType).rebuild selector { options with deferCommit }).effect bench
    (run one).1 = (run other).1 ∧
      (run one).2.store = (run other).2.store ∧
      (run one).2.fetched = (run other).2.fetched ∧
      ∃ last last' : Workbench,
        (engine entityType).commit.effect (run one).2 = (.ok (), last) ∧
        (engine entityType).commit.effect (run other).2 = (.ok (), last') ∧
        last.index.visible = last'.index.visible ∧
        last.index.pending = .empty ∧ last'.index.pending = .empty := by
  obtain ⟨result, alike⟩ := matched_rebuild entityType options one other bench selector
  exact ⟨result, alike.store, alike.fetched, _, _, rfl, rfl, alike.settled, rfl, rfl⟩

end Rebuild

end CatalogSync.Workbench
