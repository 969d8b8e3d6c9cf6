/-
**Trying records one after the other.**

This is said of every engine, whatever its index and its store are.

* **`effect_reindexEach_cons`** — one step of the loop: a record that does not fail is counted; one
  that fails is noted if the loop is forced, and ends it otherwise.
* `Engine.tryEach` — records tried one after the other: what became of each, and the last state.
* **`tally_of_ok`** — a loop that comes to its end has tried every record. It has counted those that
  did not fail and listed, in their order, those that did.
-/

import CatalogSync.Bulk.Engine

namespace CatalogSync

/-! ### Tallies -/

/-- What became of a record of a loop. -/
structure Trial where
  id : String
  result : Except SearchError Unit

/-- Whether a record did not fail. -/
def Trial.succeeded (trial : Trial) : Bool := trial.result.isOk

namespace Tally

/-- The tally with further records counted or listed. -/
def after (tally : Tally) (trials : List Trial) : Tally :=
  ⟨tally.indexed + (trials.filter Trial.succeeded).length,
    tally.failedIds ++ (trials.filter fun trial => !trial.succeeded).map Trial.id⟩

variable {tally : Tally} {id : String} {rest : List Trial}

theorem after_nil : tally.after [] = tally := by
  unfold after
  rw [List.filter_nil, List.filter_nil, List.map_nil, List.append_nil, List.length_nil,
    Nat.add_zero]

theorem after_cons_of_ok :
    Tally.after { tally with indexed := tally.indexed + 1 } rest =
      tally.after (⟨id, .ok ()⟩ :: rest) := by
  have succeeds : Trial.succeeded ⟨id, .ok ()⟩ = true := rfl
  unfold after
  rw [List.filter_cons_of_pos succeeds, List.filter_cons_of_neg (by rw [succeeds]; simp),
    List.length_cons, Nat.add_assoc, Nat.add_comm 1]

theorem after_cons_of_error {failure : SearchError} :
    Tally.after { tally with failedIds := tally.failedIds ++ [id] } rest =
      tally.after (⟨id, .error failure⟩ :: rest) := by
  have fails : Trial.succeeded ⟨id, .error failure⟩ = false := rfl
  unfold after
  rw [List.filter_cons_of_neg (by rw [fails]; simp), List.filter_cons_of_pos (by rw [fails]; rfl),
    List.map_cons, List.append_assoc, List.singleton_append]

end Tally

namespace Engine

variable {σ : Type}

/-! ### One step of the loop -/

theorem effect_enter (phase : RebuildPhase) (state : σ) :
    (enter phase).effect state = (.ok (), state) := rfl

theorem effect_announce (options : RebuildOptions) (current total : Nat) (state : σ) :
    (announce options current total).effect state = (.ok (), state) := by
  unfold announce
  split
  · rfl
  · rfl

/-- **A record that does not fail is counted; one that fails is noted if the loop is forced, and
ends it otherwise.** -/
theorem effect_reindexEach_cons (engine : Engine σ) (options : RebuildOptions) (deferCommit : Bool)
    (total position : Nat) (tally : Tally) (id : String) (rest : List String) (state : σ) :
    (engine.reindexEach options deferCommit total position tally (id :: rest)).effect state =
      match (engine.reindex deferCommit id).effect state with
      | (.ok (), reached) =>
        (engine.reindexEach options deferCommit total (position + 1)
          { tally with indexed := tally.indexed + 1 } rest).effect reached
      | (.error failure, reached) =>
        if options.force then
          (engine.reindexEach options deferCommit total (position + 1)
            { tally with failedIds := tally.failedIds ++ [id] } rest).effect reached
        else (.error (.rebuild id failure.message), reached) := by
  rw [reindexEach]
  refine (Action.effect_bind_of_ok (effect_announce options (position + 1) total state) _).trans ?_
  refine (Action.effect_bind_of_ok (Action.effect_attempt _ _) _).trans ?_
  rcases (engine.reindex deferCommit id).effect state with ⟨failure | done, reached⟩
  · refine (Action.effect_bind_of_ok (Action.effect_tell _ _ _ _) _).trans ?_
    by_cases forced : options.force = true
    · simp only [if_pos forced]
    · simp only [if_neg forced]
      rfl
  · rfl

/-! ### The whole loop -/

/-- Records tried one after the other: what became of each, and the state in the end. -/
def tryEach (engine : Engine σ) (deferCommit : Bool) : List String → σ → List Trial × σ
  | [], state => ([], state)
  | id :: rest, state =>
    let tried := (engine.reindex deferCommit id).effect state
    let others := engine.tryEach deferCommit rest tried.2
    (⟨id, tried.1⟩ :: others.1, others.2)

/-- **A loop that comes to its end has tried every record.** -/
theorem tally_of_ok {engine : Engine σ} {options : RebuildOptions} {deferCommit : Bool}
    {total position : Nat} {tally last : Tally} {ids : List String} {state reached : σ}
    (ended : (engine.reindexEach options deferCommit total position tally ids).effect state =
      (.ok last, reached)) :
    last = tally.after (engine.tryEach deferCommit ids state).1 ∧
      reached = (engine.tryEach deferCommit ids state).2 := by
  induction ids generalizing position tally state with
  | nil =>
    cases ended
    exact ⟨Tally.after_nil.symm, rfl⟩
  | cons id rest ih =>
    rw [effect_reindexEach_cons] at ended
    unfold tryEach
    cases tried : (engine.reindex deferCommit id).effect state with
    | mk result met =>
      rw [tried] at ended
      cases result with
      | ok done =>
        obtain ⟨counted, left⟩ := ih ended
        exact ⟨counted.trans Tally.after_cons_of_ok, left⟩
      | error failure =>
        simp only at ended
        split at ended
        · obtain ⟨counted, left⟩ := ih ended
          exact ⟨counted.trans Tally.after_cons_of_error, left⟩
        · cases ended

end Engine

end CatalogSync
