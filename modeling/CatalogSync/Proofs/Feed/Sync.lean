/-
**The index follows the store, transaction after transaction.**

* `live?` — the record of a dataset that is in the store and not deleted.
* `InSync` — nothing is pending, and under every id readers see what is live there.
* `perform` — a transaction on the store, followed by the publication of what it recorded.
* **`effect_perform`** — as long as no dataset has the id of another one as its name, publishing
  comes to its end, and afterwards readers see what is live, except for what was recorded as
  deleted.
* **`inSync_iff_gone`** — so the index is in sync again exactly if no dataset that was recorded as
  deleted is live, which is to say that none was brought back within its transaction.
* **`inSync_performEach`** — a run of transactions of which this is true keeps the index in sync
  at each of its publications.
-/

import CatalogSync.Proofs.Feed.Delivery
import CatalogSync.Proofs.Feed.Transaction

namespace CatalogSync

/-! ### What readers should see -/

namespace MemoryStore

variable {store : MemoryStore}

/-- The record of a dataset that is not deleted. -/
def live? (store : MemoryStore) (id : String) : Option Record :=
  ((store.at? ⟨.package, id⟩).filter fun stored => stored.state != .deleted).map
    StoredRecord.record

/-- Whether no dataset has the id of another one as its name. -/
def NamesApart (store : MemoryStore) : Prop :=
  ∀ one ∈ store.records, ∀ other ∈ store.records,
    one.entityType = .package → other.entityType = .package →
      one.record.name? = some other.id → one.id = other.id

instance (store : MemoryStore) : Decidable store.NamesApart :=
  inferInstanceAs (Decidable (∀ one ∈ store.records, ∀ other ∈ store.records,
    one.entityType = .package → other.entityType = .package →
      one.record.name? = some other.id → one.id = other.id))

theorem live?_of_at? {id : String} {stored : StoredRecord}
    (held : store.at? ⟨.package, id⟩ = some stored) (alive : stored.state ≠ .deleted) :
    store.live? id = some stored.record := by
  unfold live?
  rw [held, Option.filter_some, if_pos (bne_iff_ne.mpr alive)]
  rfl

theorem at?_of_live? {id : String} {record : Record} (live : store.live? id = some record) :
    ∃ stored, store.at? ⟨.package, id⟩ = some stored ∧ stored.record = record := by
  obtain ⟨stored, held, same⟩ := Option.map_eq_some_iff.mp live
  exact ⟨stored, (Option.filter_eq_some_iff.mp held).1, same⟩

/-- What is live under an id has that id. -/
theorem Sound.id?_of_live? (sound : store.Sound) {id : String} {record : Record}
    (live : store.live? id = some record) : record.id? = some id := by
  obtain ⟨stored, held, same⟩ := at?_of_live? live
  rw [← same]
  exact sound.id?_of_at? held

/-- A dataset that has the id of one in the store as its name is that one. -/
theorem NamesApart.eq_of_name (names : store.NamesApart) {id reference : String}
    {stored other : StoredRecord} (held : store.at? ⟨.package, id⟩ = some stored)
    (there : store.at? ⟨.package, reference⟩ = some other)
    (named : stored.record.name? = some reference) : id = reference := by
  obtain ⟨member, identity⟩ := mem_of_at? held
  obtain ⟨inside, identityOther⟩ := mem_of_at? there
  have own : stored.id = id := congrArg Identity.id identity
  have ownOther : other.id = reference := congrArg Identity.id identityOther
  rw [← ownOther] at named
  rw [← own, ← ownOther]
  exact names stored member other inside (congrArg Identity.entityType identity)
    (congrArg Identity.entityType identityOther) named

/-- Fetching a dataset by its id finds it, whatever the others are called. -/
theorem NamesApart.fetch? (names : store.NamesApart) (unharmed : store.failing = []) {id : String}
    {stored : StoredRecord} (held : store.at? ⟨.package, id⟩ = some stored) :
    store.fetch? .package id = .ok stored.record := by
  obtain ⟨member, identity⟩ := mem_of_at? held
  have own : stored.id = id := congrArg Identity.id identity
  have dataset : stored.entityType = .package := congrArg Identity.entityType identity
  refine fetch?_of_held held (by rw [unharmed]; exact List.not_mem_nil) ?_
  intro other inside sameType named
  rw [← own] at named ⊢
  exact names other inside stored member sameType dataset named

end MemoryStore

namespace Workbench

variable {ε : Type} [Entity ε]

/-- Nothing is pending, and readers see exactly the datasets that are not deleted, as they are. -/
structure InSync (bench : Workbench) : Prop where
  pending : bench.index.pending = .empty
  visible : ∀ id, bench.index.visible.get? id = bench.store.live? id

/-- A transaction, followed by the publication of what it recorded. -/
def perform (transaction : List (Mutation ε)) : Action Workbench Unit := do
  let session ← .ask fun bench => Session.run bench.store transaction
  .change fun bench => { bench with store := session.store }
  feed.publish session.changes

/-! ### One transaction -/

section Published

variable {start : MemoryStore} {session : Session ε} (tracks : session.Tracks start)
  (names : session.store.NamesApart)
include tracks names

/-- Whatever is recorded as created or changed is found in the store. -/
theorem deliverable_of_tracks (unharmed : session.store.failing = []) :
    ∀ entry ∈ session.changes.deliveries, Deliverable session.store entry := by
  rintro ⟨⟨entityType, id⟩, operation⟩ member dataset alive
  cases dataset
  obtain ⟨stored, held, -⟩ :=
    tracks.upserted id (ChangeSet.mem_upserted_of_mem_deliveries member alive)
  exact ⟨stored.record, names.fetch? unharmed held, tracks.reachable.sound.id?_of_at? held⟩

/-- What is live and not recorded as deleted answers to no id that is. -/
theorem not_answersToAny {id : String} {record : Record}
    (live : session.store.live? id = some record)
    (stays : ⟨.package, id⟩ ∉ session.changes.removed) :
    answersToAny session.changes.removed record = false := by
  have known := tracks.reachable.sound.id?_of_live? live
  unfold answersToAny
  rw [List.any_eq_false]
  rintro ⟨entityType, gone⟩ member hit
  obtain ⟨sameType, answers⟩ := Bool.and_eq_true_iff.mp hit
  cases beq_iff_eq.mp sameType
  have same : id = gone := by
    rcases Bool.or_eq_true_iff.mp answers with byId | byName
    · exact Option.some.inj (known.symm.trans (beq_iff_eq.mp byId))
    · -- The deleted dataset is still in the store, so its id is nobody else's name.
      obtain ⟨stored, held, kept⟩ := MemoryStore.at?_of_live? live
      obtain ⟨other, there⟩ := tracks.removed gone member
      exact names.eq_of_name held there (kept ▸ beq_iff_eq.mp byName)
  exact stays (same ▸ member)

/-- **After the publication readers see what is live, except for what was recorded as deleted.** -/
theorem get?_published (sound : start.Sound) (unharmed : session.store.failing = [])
    {documents : SortedMap Record} (inSync : ∀ id, documents.get? id = start.live? id)
    (id : String) :
    (deliverAll session.store documents session.changes.deliveries).get? id =
      if ⟨.package, id⟩ ∈ session.changes.removed then none else session.store.live? id := by
  rw [get?_deliverAll session.store documents (deliverable_of_tracks tracks names unharmed)]
  by_cases gone : ⟨.package, id⟩ ∈ session.changes.removed
  · have notUpserted : ⟨.package, id⟩ ∉ session.changes.upserted := fun member =>
      tracks.merged.apart _ member gone
    rw [if_pos gone, if_neg notUpserted, inSync, Option.filter_eq_none_iff]
    intro record live
    have answers : answersToAny session.changes.removed record = true := by
      refine List.any_eq_true.mpr ⟨⟨.package, id⟩, gone, ?_⟩
      simp [Record.answersTo, sound.id?_of_live? live]
    simp [answers]
  · have value : (if ⟨.package, id⟩ ∈ session.changes.upserted then
        (session.store.fetch? .package id).toOption else documents.get? id) =
          session.store.live? id := by
      by_cases upserted : ⟨.package, id⟩ ∈ session.changes.upserted
      · obtain ⟨stored, held, alive⟩ := tracks.upserted id upserted
        rw [if_pos upserted, names.fetch? unharmed held, MemoryStore.live?_of_at? held alive]
        rfl
      · unfold MemoryStore.live?
        rw [if_neg upserted, inSync, tracks.untouched id upserted gone]
        rfl
    rw [if_neg gone, value]
    cases live : session.store.live? id with
    | none => rfl
    | some record =>
      rw [Option.filter_some_pos]
      rw [not_answersToAny tracks names live gone]
      rfl

end Published

/-- Readers see what is live after a transaction, except for what it recorded as deleted. -/
structure Follows (bench : Workbench) (session : Session ε) (reached : Workbench) : Prop where
  store : reached.store = session.store
  refused : reached.index.refused = bench.index.refused
  pending : reached.index.pending = .empty
  visible : ∀ id, reached.index.visible.get? id =
    if ⟨.package, id⟩ ∈ session.changes.removed then none else session.store.live? id

/-- Whether no dataset that was recorded as deleted is live at the end of its transaction. -/
def Gone (session : Session ε) : Prop :=
  ∀ identity ∈ session.changes.removed,
    identity.entityType = .package → session.store.live? identity.id = none

instance (session : Session ε) : Decidable (Gone session) :=
  inferInstanceAs (Decidable (∀ identity ∈ session.changes.removed,
    identity.entityType = .package → session.store.live? identity.id = none))

/-- **The index is in sync again exactly if nothing that was recorded as deleted is live.** -/
theorem inSync_iff_gone {bench reached : Workbench} {session : Session ε}
    (follows : bench.Follows session reached) : reached.InSync ↔ Gone session := by
  constructor
  · intro inSync ⟨entityType, id⟩ removed (dataset : entityType = .package)
    subst dataset
    have shown := inSync.visible id
    rw [follows.visible, if_pos removed, follows.store] at shown
    exact shown.symm
  · intro gone
    refine ⟨follows.pending, fun id => ?_⟩
    rw [follows.visible, follows.store]
    split
    · rename_i removed
      exact (gone ⟨.package, id⟩ removed rfl).symm
    · rfl

section Perform

variable {bench : Workbench} {transaction : List (Mutation ε)}

/-- **Publishing what a transaction recorded comes to its end, and the index follows the store.** -/
theorem effect_perform (reachable : bench.store.Reachable) (unharmed : bench.store.failing = [])
    (accepting : bench.index.refused = []) (inSync : bench.InSync)
    (permitted : Session.Permitted ⟨bench.store, .empty⟩ transaction)
    (names : (Session.run bench.store transaction).store.NamesApart) :
    ∃ reached, (perform transaction).effect bench = (.ok (), reached) ∧
      bench.Follows (Session.run bench.store transaction) reached := by
  have tracks := Session.tracks_run reachable permitted
  have unharmedThen := tracks.failing.trans unharmed
  let changed : Workbench := { bench with store := (Session.run bench.store transaction).store }
  have nothing : changed.index.pending = .empty := inSync.pending
  obtain ⟨reached, published, shows⟩ :=
    effect_publish (Session.run bench.store transaction).changes nothing accepting
      (deliverable_of_tracks tracks names unharmedThen)
  refine ⟨reached, ?_, shows.store, shows.refused, shows.pending, fun id => ?_⟩
  · exact (Action.effect_bind_of_ok rfl _).trans ((Action.effect_bind_of_ok rfl _).trans published)
  · rw [shows.visible]
    exact get?_published tracks names reachable.sound unharmedThen inSync.visible id

end Perform

/-! ### Runs of transactions -/

/-- The store after transactions, one after the other. -/
def storeAfter (store : MemoryStore) (transactions : List (List (Mutation ε))) : MemoryStore :=
  transactions.foldl (fun store transaction => (Session.run store transaction).store) store

/-- Whether all transactions may happen, one after the other, and at the publication of each no
dataset has the id of another one as its name, and none that was recorded as deleted is live. -/
def Orderly : MemoryStore → List (List (Mutation ε)) → Prop
  | _, [] => True
  | store, transaction :: rest =>
    Session.Permitted ⟨store, .empty⟩ transaction ∧
      (Session.run store transaction).store.NamesApart ∧ Gone (Session.run store transaction) ∧
      Orderly (Session.run store transaction).store rest

instance decidableOrderly : (store : MemoryStore) → (transactions : List (List (Mutation ε))) →
    Decidable (Orderly store transactions)
  | _, [] => inferInstanceAs (Decidable True)
  | store, transaction :: rest =>
    have := decidableOrderly (Session.run store transaction).store rest
    inferInstanceAs (Decidable (Session.Permitted ⟨store, .empty⟩ transaction ∧
      (Session.run store transaction).store.NamesApart ∧ Gone (Session.run store transaction) ∧
      Orderly (Session.run store transaction).store rest))

/-- **A run of transactions leaves the index in sync after each of its publications.** -/
theorem inSync_performEach (bench : Workbench) (transactions : List (List (Mutation ε)))
    (reachable : bench.store.Reachable) (unharmed : bench.store.failing = [])
    (accepting : bench.index.refused = []) (inSync : bench.InSync)
    (orderly : Orderly bench.store transactions) :
    ∀ front rest, transactions = front ++ rest →
      ∃ reached, (Feed.inTurn (front.map perform)).effect bench = (.ok (), reached) ∧
        reached.InSync ∧ reached.store = storeAfter bench.store front := by
  intro front rest parts
  subst parts
  induction front generalizing bench with
  | nil => exact ⟨bench, rfl, inSync, rfl⟩
  | cons transaction front ih =>
    obtain ⟨permitted, names, gone, later⟩ := orderly
    obtain ⟨next, performed, follows⟩ :=
      effect_perform reachable unharmed accepting inSync permitted names
    have tracks := Session.tracks_run reachable permitted
    have again : next.InSync := (inSync_iff_gone follows).mpr gone
    rw [← follows.store] at later
    obtain ⟨reached, ran, last, same⟩ := ih next (by rw [follows.store]; exact tracks.reachable)
      (by rw [follows.store]; exact tracks.failing.trans unharmed)
      (follows.refused.trans accepting) again later
    refine ⟨reached, (Action.effect_bind_of_ok performed _).trans ran, last, ?_⟩
    rw [same, follows.store]
    rfl

/-- Three transactions: two datasets come to be; one of them takes the name that the other had,
which gets a new one; and that other is deleted while a resource with the id of the first one goes
too. -/
def swapped : List (List (Mutation Identity)) :=
  let called (id name : String) := (Record.idOnly id).insert "name" (.text name)
  [[.put ⟨.package, "a"⟩ (called "a" "x") .active none,
      .put ⟨.package, "b"⟩ (called "b" "y") .draft none],
    [.put ⟨.package, "b"⟩ (called "b" "z") .active none,
      .put ⟨.package, "a"⟩ (called "a" "y") .active none, .collections ⟨.package, "b"⟩],
    [.setState ⟨.package, "b"⟩ .draft, .elsewhere ⟨⟨"resource"⟩, "a"⟩ .deleted,
      .setState ⟨.package, "b"⟩ .deleted]]

/-- In the end readers see the one dataset under its new name, and the other no more. -/
theorem inSync_performEach_of_swapped :
    MemoryStore.empty.Reachable ∧ MemoryStore.empty.failing = [] ∧
      MemoryIndex.empty.refused = [] ∧ InSync ⟨.empty, .empty, []⟩ ∧
      Orderly MemoryStore.empty swapped ∧
      ∃ reached : Workbench,
        (Feed.inTurn (swapped.map perform)).effect ⟨.empty, .empty, []⟩ = (.ok (), reached) ∧
        reached.InSync ∧
        (reached.index.visible.get? "a").bind Record.name? = some "y" ∧
        reached.index.visible.get? "b" = none := by
  have inSync : InSync ⟨.empty, .empty, []⟩ := ⟨rfl, fun _ => rfl⟩
  have orderly : Orderly MemoryStore.empty swapped := by decide
  obtain ⟨reached, ran, last, store⟩ := inSync_performEach ⟨.empty, .empty, []⟩ swapped .empty rfl
    rfl inSync orderly swapped [] rfl
  refine ⟨.empty, rfl, rfl, inSync, orderly, reached, ran, last, ?_, ?_⟩
  · rw [last.visible, store]
    rfl
  · rw [last.visible, store]
    rfl

end Workbench

end CatalogSync
