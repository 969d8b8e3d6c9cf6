/-
**The stages of a rebuild.**

This is said of every engine, whatever its index and its store are.

* `Engine.prepare`, `Engine.conclude` — what a rebuild does before its loop, which yields the ids to
  work on, and what it does after it.
* `RebuildSummary.Sums` — what a summary says of the records that were tried.
* **`rebuild_of_ok`** — a rebuild that comes to its end went through these three stages one after
  the other, and its summary is that of the records it tried.
-/

import CatalogSync.Proofs.Bulk.Rebuild

namespace CatalogSync

variable {σ α β : Type}

/-- Two actions in a row come to their end only if both do. -/
theorem Action.ok_of_bind {action : Action σ α} {next : α → Action σ β} {state reached : σ}
    {last : β} (ended : (action >>= next).effect state = (.ok last, reached)) :
    ∃ value met, action.effect state = (.ok value, met) ∧
      (next value).effect met = (.ok last, reached) := by
  rw [effect_bind] at ended
  rcases ran : action.effect state with ⟨failure | value, met⟩
  · rw [ran] at ended
    cases ended
  · rw [ran] at ended
    exact ⟨value, met, rfl, ended⟩

/-- What a summary says of the records that were tried. -/
structure RebuildSummary.Sums (summary : RebuildSummary) (trials : List Trial) : Prop where
  total : summary.total = trials.length
  indexed : summary.indexed = (trials.filter Trial.succeeded).length
  failedIds : summary.failedIds = (trials.filter fun trial => !trial.succeeded).map Trial.id

namespace Engine

variable (engine : Engine σ) (selector : Selector) (options : RebuildOptions)

/-- What a rebuild does before its loop: it finds the ids to work on and empties the index, if it is
told to. -/
def prepare : Action σ (List String) :=
  match selector with
  | .one reference => pure [reference]
  | .many ids => pure ids
  | .all => do
    let ids ← engine.store.enumerate engine.entityType .notDeleted
    if options.onlyMissing then engine.missingFromIndex ids
    else if options.clearFirst then do
      engine.index.clear
      pure ids
    else pure ids

/-- Makes the writes of the loop visible, if they were held back for this. -/
def flush : Action σ Unit := if selector.flushes options then engine.index.commit else pure ()

/-- What a rebuild does after its loop. -/
def conclude : Action σ Unit := do
  engine.flush selector options
  engine.store.commit

variable {engine selector options}

variable (engine) in
theorem ids_tryEach (deferCommit : Bool) (ids : List String) (state : σ) :
    (engine.tryEach deferCommit ids state).1.map Trial.id = ids := by
  induction ids generalizing state with
  | nil => rfl
  | cons id rest ih => exact congrArg (id :: ·) (ih _)

/-- A loop that comes to its end sums up what became of the records. -/
theorem sums_of_process {deferCommit : Bool} {ids : List String} {summary : RebuildSummary}
    {state reached : σ}
    (ended : (engine.process options deferCommit ids).effect state = (.ok summary, reached)) :
    summary.Sums (engine.tryEach deferCommit ids state).1 ∧
      reached = (engine.tryEach deferCommit ids state).2 := by
  unfold process at ended
  rw [Action.effect_bind_of_ok (effect_enter .processing state)] at ended
  obtain ⟨tally, met, looped, told⟩ := Action.ok_of_bind ended
  obtain ⟨counted, left⟩ := tally_of_ok looped
  have same : ((.ok ⟨ids.length, tally.indexed, tally.failedIds, .completed⟩, met) :
      Except SearchError RebuildSummary × σ) = (.ok summary, reached) := by
    split at told
    · exact told
    · exact told
  cases same
  refine ⟨⟨?total, ?indexed, ?failedIds⟩, left⟩
  case total =>
    have names := congrArg List.length (ids_tryEach engine deferCommit ids state)
    rw [List.length_map] at names
    exact names.symm
  case indexed => rw [counted, Tally.after, Nat.zero_add]
  case failedIds => rw [counted, Tally.after, List.nil_append]

/-- Nothing to do is what the rebuild of no records sums up to. -/
theorem sums_nothingMissing : RebuildSummary.nothingMissing.Sums [] := ⟨rfl, rfl, rfl⟩

/-- The part of a rebuild of all records that concerns the index. -/
theorem rebuildAll_of_ok {summary : RebuildSummary} {start reached : σ}
    (ended : (engine.rebuildAll options).effect start = (.ok summary, reached)) :
    ∃ ids prepared, (engine.prepare .all options).effect start = (.ok ids, prepared) ∧
      summary.Sums (engine.tryEach options.deferCommit ids prepared).1 ∧
      reached = (engine.tryEach options.deferCommit ids prepared).2 := by
  unfold rebuildAll at ended
  rw [Action.effect_bind_of_ok (effect_enter .enumerating start)] at ended
  obtain ⟨ids, listed, enumerated, rest⟩ := Action.ok_of_bind ended
  unfold prepare
  simp only [Action.effect_bind_of_ok enumerated]
  by_cases only : options.onlyMissing = true
  · rw [if_pos only] at rest ⊢
    rw [Action.effect_bind_of_ok (effect_enter .diffing listed),
      Action.effect_bind_of_ok (Action.effect_tell _ _ _ listed)] at rest
    obtain ⟨missing, compared, found, rest⟩ := Action.ok_of_bind rest
    refine ⟨missing, compared, found, ?_⟩
    by_cases idle : missing.isEmpty = true
    · rw [if_pos idle] at rest
      cases rest
      obtain rfl := List.isEmpty_iff.mp idle
      exact ⟨sums_nothingMissing, rfl⟩
    · rw [if_neg idle] at rest
      exact sums_of_process rest
  · rw [if_neg only] at rest ⊢
    rw [Action.effect_bind_of_ok (Action.effect_tell _ _ _ listed)] at rest
    by_cases clears : options.clearFirst = true
    · rw [if_pos clears] at rest ⊢
      rw [Action.effect_bind_of_ok (effect_enter .clearing listed)] at rest
      obtain ⟨done, emptied, cleared, rest⟩ := Action.ok_of_bind rest
      exact ⟨ids, emptied, Action.effect_bind_of_ok cleared _, sums_of_process rest⟩
    · rw [if_neg clears] at rest ⊢
      exact ⟨ids, listed, rfl, sums_of_process rest⟩

/-- The part of a rebuild of given records that concerns the index. -/
theorem rebuildMany_of_ok {ids : List String} {summary : RebuildSummary} {start reached : σ}
    (ended : (engine.rebuildMany ids options).effect start = (.ok summary, reached)) :
    summary.Sums (engine.tryEach true ids start).1 ∧
      (engine.flush (.many ids) options).effect (engine.tryEach true ids start).2 =
        (.ok (), reached) := by
  unfold rebuildMany at ended
  obtain ⟨processed, met, looped, rest⟩ := Action.ok_of_bind ended
  obtain ⟨sums, left⟩ := sums_of_process looped
  unfold flush Selector.flushes
  rw [← left]
  cases deferred : options.deferCommit with
  | true =>
    simp only [deferred, if_true] at rest
    cases rest
    exact ⟨sums, rfl⟩
  | false =>
    simp only [deferred, Bool.false_eq_true, if_false] at rest
    obtain ⟨done, flushed, committed, rest⟩ := Action.ok_of_bind rest
    cases rest
    exact ⟨sums, committed⟩

/-- **A rebuild of given or of all records that comes to its end prepares, tries every record, and
concludes; its summary is that of the records it tried.** -/
theorem rebuild_of_ok (bulk : selector.isBulk = true) {summary : RebuildSummary} {start finish : σ}
    (ended : (engine.rebuild selector options).effect start = (.ok summary, finish)) :
    ∃ ids prepared, (engine.prepare selector options).effect start = (.ok ids, prepared) ∧
      summary.Sums (engine.tryEach (selector.defers options) ids prepared).1 ∧
      (engine.conclude selector options).effect
        (engine.tryEach (selector.defers options) ids prepared).2 = (.ok (), finish) := by
  unfold rebuild at ended
  rw [Action.effect_bind_of_ok (Action.effect_tell _ _ _ start)] at ended
  obtain ⟨outcome, rebuilt, selected, rest⟩ := Action.ok_of_bind ended
  rw [Action.effect_bind_of_ok (effect_enter .committing rebuilt)] at rest
  obtain ⟨done, closed, committed, rest⟩ := Action.ok_of_bind rest
  -- what is left only tells of the end
  have same : outcome = summary ∧ closed = finish := by
    cases rest
    exact ⟨rfl, rfl⟩
  obtain ⟨rfl, rfl⟩ := same
  cases selector with
  | one reference => cases bulk
  | many ids =>
    obtain ⟨sums, flushed⟩ := rebuildMany_of_ok selected
    exact ⟨ids, start, rfl, sums, (Action.effect_bind_of_ok flushed _).trans committed⟩
  | all =>
    obtain ⟨ids, prepared, found, sums, left⟩ := rebuildAll_of_ok selected
    rw [left] at committed
    exact ⟨ids, prepared, found, sums, (Action.effect_bind_of_ok rfl _).trans committed⟩

end Engine

end CatalogSync
