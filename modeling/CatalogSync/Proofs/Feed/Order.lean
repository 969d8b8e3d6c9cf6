/-
**In which order changes are told, and how far.**

* `Telling` — one observer is told of one change. `ChangeSet.tellings` lists those of a publication:
  change after change, and of each change observer after observer (`getElem?_tellings`).
* `Telling.Faithful` — what one telling does to the store and to the index: nothing if the observer
  does not care, one removal by id, or one fetch and one write of what was fetched.
* `inTurn_cases` — tellings in turn are all carried out, or those up to the first that fails.
* **`publish_tellings`** — so a publication is the tellings up to the first that fails, and what the
  changed entities hold besides their ids has no part in it.
-/

import CatalogSync.Observer
import CatalogSync.Proofs.Feed.Merge

namespace CatalogSync

variable {σ ε : Type} [Entity ε]

/-! ### Dispatching -/

/-- Dispatching a change is the call that goes with it, on the writer that is registered. -/
theorem Registry.effect_dispatch {registry : Registry (IndexWriter σ)} {entityType : EntityType}
    {writer : IndexWriter σ} (registered : registry.get? entityType = some writer)
    (record : Record) (operation : ChangeOperation) (state : σ) :
    (registry.dispatch entityType record operation).effect state =
      (applyChange writer record operation).effect state := by
  have chosen : (registry.writerFor entityType).effect state = (.ok writer, state) := by
    unfold writerFor
    rw [registered]
    rfl
  refine (Action.effect_bind_of_ok chosen _).trans
    ((Action.effect_bind_of_ok (Action.effect_attempt _ _) _).trans ?_)
  rcases (applyChange writer record operation).effect state with ⟨result, reached⟩
  cases result with
  | ok _ => rfl
  | error failure => rfl

/-- Dispatching a change of a type that nobody indexes does nothing. -/
theorem Registry.effect_dispatch_of_none {registry : Registry (IndexWriter σ)}
    {entityType : EntityType} (unknown : registry.get? entityType = none) (record : Record)
    (operation : ChangeOperation) (state : σ) :
    (registry.dispatch entityType record operation).effect state = (.ok (), state) := by
  have chosen : (registry.writerFor entityType).effect state = (.ok .discarding, state) := by
    unfold writerFor
    rw [unknown]
    rfl
  refine (Action.effect_bind_of_ok chosen _).trans ?_
  cases operation with
  | created => rfl
  | changed => rfl
  | deleted => rfl

/-! ### Tellings -/

/-- An observer and a change that it is told of. -/
structure Telling (σ : Type) where
  identity : Identity
  operation : ChangeOperation
  observer : Observer σ

/-- Tells the observer of the change. -/
def Telling.run (telling : Telling σ) : Action σ Unit :=
  telling.observer.notify telling.identity telling.operation

/-- The tellings of a set of changes, in order. -/
def ChangeSet.tellings (changes : ChangeSet ε) (observers : List (Observer σ)) :
    List (Telling σ) :=
  changes.deliveries.flatMap fun entry =>
    observers.map fun observer => ⟨entry.1, entry.2, observer⟩

/-- The feed to which observers were registered one after the other. -/
def Feed.observed (observers : List (Observer σ)) : Feed σ :=
  observers.foldl (fun feed observer => feed.register observer.listener) .empty

theorem Feed.listeners_observed (observers : List (Observer σ)) :
    (Feed.observed observers).listeners = observers.map Observer.listener := by
  have joined (feed : Feed σ) : (observers.foldl (fun feed observer =>
      feed.register observer.listener) feed).listeners =
        feed.listeners ++ observers.map Observer.listener := by
    induction observers generalizing feed with
    | nil => exact (List.append_nil _).symm
    | cons observer rest ih =>
      rw [List.foldl_cons, ih, List.map_cons]
      exact List.append_assoc _ _ _
  exact joined .empty

/-- These are the notifications of that feed. -/
theorem Feed.notifications_observed (changes : ChangeSet ε) (observers : List (Observer σ)) :
    (Feed.observed observers).notifications changes =
      (changes.tellings observers).map Telling.run := by
  unfold Feed.notifications ChangeSet.tellings ChangeSet.deliveries
  rw [Feed.listeners_observed, List.map_flatMap, List.flatMap_map]
  simp only [List.map_map]
  rfl

/-- In a list that is made of pieces of one length, every element is found by the number of its
piece and its place there. -/
theorem getElem?_pieces {α β : Type} {width : Nat} (piece : α → List β)
    (even : ∀ item, (piece item).length = width) (items : List α) (row : Nat) {place : Nat}
    (inside : place < width) :
    (items.flatMap piece)[row * width + place]? =
      items[row]?.bind fun item => (piece item)[place]? := by
  induction items generalizing row with
  | nil => simp
  | cons item rest ih =>
    rw [List.flatMap_cons]
    cases row with
    | zero =>
      rw [Nat.zero_mul, Nat.zero_add, List.getElem?_append_left (by rw [even]; exact inside)]
      rfl
    | succ row =>
      have beyond : (piece item).length ≤ (row + 1) * width + place := by
        rw [even, Nat.succ_mul]
        omega
      have shift : (row + 1) * width + place - (piece item).length = row * width + place := by
        rw [even, Nat.succ_mul]
        omega
      rw [List.getElem?_append_right beyond, shift, ih, List.getElem?_cons_succ]

/-- **Changes come one after the other, and for each of them the observers do.** -/
theorem getElem?_tellings (changes : ChangeSet ε) (observers : List (Observer σ)) (row : Nat)
    {place : Nat} (inside : place < observers.length) :
    (changes.tellings observers)[row * observers.length + place]? =
      changes.deliveries[row]?.bind fun entry =>
        observers[place]?.map fun observer => ⟨entry.1, entry.2, observer⟩ := by
  refine (getElem?_pieces _ (fun entry => List.length_map _) changes.deliveries row inside).trans ?_
  simp only [List.getElem?_map]

theorem length_tellings (changes : ChangeSet ε) (observers : List (Observer σ)) :
    (changes.tellings observers).length = changes.size * observers.length := by
  unfold ChangeSet.tellings ChangeSet.deliveries
  rw [List.length_flatMap, ← changes.length_entries]
  simp only [List.length_map, List.map_const', List.sum_replicate_nat]

/-! ### One telling after the other -/

/-- The state that tellings leave behind, one after the other, whatever comes of them. -/
def Telling.left (state : σ) (tellings : List (Telling σ)) : σ :=
  tellings.foldl (fun reached telling => (telling.run.effect reached).2) state

/-- Whether every telling comes to its end after those before it. -/
def Telling.Undisturbed (state : σ) (tellings : List (Telling σ)) : Prop :=
  ∀ front telling rest, tellings = front ++ telling :: rest →
    (telling.run.effect (left state front)).1 = .ok ()

namespace Telling

theorem undisturbed_nil (state : σ) : Undisturbed state [] :=
  fun front _ _ split => absurd split.symm (by simp)

theorem Undisturbed.cons {state : σ} {telling : Telling σ} {rest : List (Telling σ)}
    (first : (telling.run.effect state).1 = .ok ())
    (later : Undisturbed (telling.run.effect state).2 rest) :
    Undisturbed state (telling :: rest) := by
  intro front other others split
  cases front with
  | nil =>
    obtain ⟨rfl, rfl⟩ := List.cons.inj split
    exact first
  | cons head front =>
    obtain ⟨rfl, onwards⟩ := List.cons.inj split
    exact later front other others onwards

/-- **Tellings in turn are all carried out, or those up to the first that fails.** -/
theorem inTurn_cases (tellings : List (Telling σ)) (state : σ) :
    Undisturbed state tellings ∧
        (Feed.inTurn (tellings.map run)).effect state = (.ok (), left state tellings) ∨
      ∃ front telling rest failure, tellings = front ++ telling :: rest ∧
        Undisturbed state front ∧ (telling.run.effect (left state front)).1 = .error failure ∧
        (Feed.inTurn (tellings.map run)).effect state =
          (.error failure, left state (front ++ [telling])) := by
  induction tellings generalizing state with
  | nil => exact .inl ⟨undisturbed_nil state, rfl⟩
  | cons telling rest ih =>
    rcases told : telling.run.effect state with ⟨result, reached⟩
    obtain rfl : (telling.run.effect state).2 = reached := congrArg Prod.snd told
    cases result with
    | error failure =>
      exact .inr ⟨[], telling, rest, failure, rfl, undisturbed_nil state, congrArg Prod.fst told,
        Action.effect_bind_of_error told _⟩
    | ok _ =>
      have goesOn : (Feed.inTurn ((telling :: rest).map run)).effect state =
          (Feed.inTurn (rest.map run)).effect (telling.run.effect state).2 :=
        Action.effect_bind_of_ok told _
      have first : (telling.run.effect state).1 = .ok () := congrArg Prod.fst told
      rcases ih (telling.run.effect state).2 with ⟨undisturbed, ended⟩ |
        ⟨front, last, later, failure, split, undisturbed, failed, ended⟩
      · exact .inl ⟨.cons first undisturbed, goesOn.trans ended⟩
      · exact .inr ⟨telling :: front, last, later, failure, by rw [split]; rfl,
          .cons first undisturbed, failed, goesOn.trans ended⟩

end Telling

/-! ### One telling -/

/-- What one telling does to the store and to the index. -/
structure Telling.Faithful (telling : Telling σ) : Prop where
  /-- An observer that is switched off, or tracks another type, does nothing. -/
  skips : ¬(telling.identity.entityType = telling.observer.tracked ∧
    telling.observer.automatic = true) → ∀ state, telling.run.effect state = (.ok (), state)
  /-- Otherwise a deleted entity is removed by its id from the index of its type, if there is one.
  -/
  removes : telling.identity.entityType = telling.observer.tracked →
    telling.observer.automatic = true → telling.operation = .deleted → ∀ state,
      telling.run.effect state =
        match telling.observer.indexes.get? telling.identity.entityType with
        | none => (.ok (), state)
        | some writer => (writer.remove (.idOnly telling.identity.id)).effect state
  /-- Any other one is fetched, and that is all if it cannot be. -/
  fetches : telling.identity.entityType = telling.observer.tracked →
    telling.observer.automatic = true → telling.operation ≠ .deleted →
      ∀ state failure reached,
        (telling.observer.store.fetch telling.identity.entityType telling.identity.id).effect
            state = (.error failure, reached) →
          telling.run.effect state = (.error failure, reached)
  /-- The record that was fetched is written to the index of its type, if there is one. -/
  writes : telling.identity.entityType = telling.observer.tracked →
    telling.observer.automatic = true → telling.operation ≠ .deleted →
      ∀ state record reached,
        (telling.observer.store.fetch telling.identity.entityType telling.identity.id).effect
            state = (.ok record, reached) →
          telling.run.effect state =
            match telling.observer.indexes.get? telling.identity.entityType with
            | none => (.ok (), reached)
            | some writer =>
              (if telling.operation = .created then writer.insert record
                else writer.update record false).effect reached

section Notify

variable {observer : Observer σ} {identity : Identity}
  (tracked : identity.entityType = observer.tracked) (automatic : observer.automatic = true)
include tracked automatic

theorem Observer.notify_deleted :
    observer.notify identity .deleted =
      observer.indexes.dispatch identity.entityType (.idOnly identity.id) .deleted := by
  unfold Observer.notify
  rw [if_pos ⟨tracked, automatic⟩]

theorem Observer.notify_upsert {operation : ChangeOperation} (alive : operation ≠ .deleted) :
    observer.notify identity operation =
      (observer.store.fetch identity.entityType identity.id >>= fun record =>
        observer.indexes.dispatch identity.entityType record operation) := by
  unfold Observer.notify
  rw [if_pos ⟨tracked, automatic⟩]
  cases operation with
  | created => rfl
  | changed => rfl
  | deleted => exact absurd rfl alive

end Notify

/-- **Every telling is faithful.** -/
theorem Telling.faithful (telling : Telling σ) : telling.Faithful := by
  obtain ⟨identity, operation, observer⟩ := telling
  refine ⟨fun apart state => ?_, fun tracked automatic gone state => ?_,
    fun tracked automatic alive state failure reached failed => ?_,
    fun tracked automatic alive state record reached fetched => ?_⟩
  · show (observer.notify identity operation).effect state = _
    unfold Observer.notify
    rw [if_neg apart]
    rfl
  · obtain rfl : operation = .deleted := gone
    show (observer.notify identity .deleted).effect state = _
    rw [Observer.notify_deleted tracked automatic]
    cases registered : observer.indexes.get? identity.entityType with
    | none =>
      rw [Registry.effect_dispatch_of_none registered]
    | some writer =>
      rw [Registry.effect_dispatch registered]
      rfl
  · show (observer.notify identity operation).effect state = _
    rw [Observer.notify_upsert tracked automatic alive]
    exact Action.effect_bind_of_error failed _
  · show (observer.notify identity operation).effect state = _
    rw [Observer.notify_upsert tracked automatic alive]
    refine (Action.effect_bind_of_ok fetched _).trans ?_
    cases registered : observer.indexes.get? identity.entityType with
    | none =>
      rw [Registry.effect_dispatch_of_none registered]
    | some writer =>
      rw [Registry.effect_dispatch registered]
      cases operation with
      | created => rfl
      | changed => rfl
      | deleted => exact absurd rfl alive

/-! ### A publication -/

/-- **A publication is its tellings in order, up to the first that fails.** -/
theorem publish_tellings (changes : ChangeSet ε) (observers : List (Observer σ)) (state : σ) :
    let tellings := changes.tellings observers
    let outcome := ((Feed.observed observers).publish changes).effect state
    ((∀ row place entry observer,
        (changes.created.map (Entity.identity ·, ChangeOperation.created) ++
          changes.changed.map (Entity.identity ·, ChangeOperation.changed) ++
          changes.deleted.map (Entity.identity ·, ChangeOperation.deleted))[row]? = some entry →
        observers[place]? = some observer →
          tellings[row * observers.length + place]? = some ⟨entry.1, entry.2, observer⟩) ∧
      tellings.length = changes.size * observers.length) ∧
    (Telling.Undisturbed state tellings ∧ outcome = (.ok (), Telling.left state tellings) ∨
      ∃ front telling rest failure, tellings = front ++ telling :: rest ∧
        Telling.Undisturbed state front ∧
        (telling.run.effect (Telling.left state front)).1 = .error failure ∧
        outcome = (.error failure, Telling.left state (front ++ [telling]))) ∧
    (∀ telling ∈ tellings, telling.Faithful) ∧
    ∀ (other : ChangeSet Identity), other.deliveries = changes.deliveries →
      ((Feed.observed observers).publish other).effect state = outcome := by
  have ran {α : Type} [Entity α] (given : ChangeSet α) :
      ((Feed.observed observers).publish given).effect state =
        (Feed.inTurn ((given.tellings observers).map Telling.run)).effect state := by
    rw [← Feed.notifications_observed]
    exact Action.effect_bind_of_ok (Action.effect_tell _ _ _ state) _
  refine ⟨⟨fun row place entry observer there told => ?_, length_tellings changes observers⟩, ?_,
    fun telling _ => telling.faithful, fun other same => ?_⟩
  · have inside : place < observers.length := (List.getElem?_eq_some_iff.mp told).1
    have delivered : changes.deliveries[row]? = some entry := by
      rw [← there]
      unfold ChangeSet.deliveries ChangeSet.entries
      simp only [List.map_append, List.map_map]
      rfl
    rw [getElem?_tellings changes observers row inside, delivered, told]
    rfl
  · rw [ran]
    exact Telling.inTurn_cases (changes.tellings observers) state
  · rw [ran, ran]
    unfold ChangeSet.tellings
    rw [same]

end CatalogSync
