/-
**What a reference finds in a store of record.**

A reference is an id or a name, and the store goes through its records in one pass: the first one
that has the reference as either is fetched.

* `StoredRecord.isCalled` — the reference is the name of the record.
* `ahead` — the records that come before the one with an id.
* `fetch?_of_at?` — an id finds its record, unless one ahead of it is called so. The first of those
  is fetched then, and it is another one (`fetch?_eq_own_iff`).
* `fetch?_of_absent` — a reference that is nobody's id finds the first record that is called so.
* `answersTo_of_fetch?`, `Sound.id?_of_fetch?` — what is fetched answers to the reference and has
  an id.
* **`fetch?_resolves`** — so it is in every store that can come about, of every id that it lists.
* `fetch?_finds_namesake` — an id that is listed need not find its own record.
-/

import CatalogSync.Proofs.Store.Holdings
import Mathlib.Data.List.TakeWhile

namespace CatalogSync

namespace StoredRecord

/-- Whether the record has the type, and the reference as its name. -/
def isCalled (stored : StoredRecord) (entityType : EntityType) (reference : String) : Bool :=
  stored.entityType == entityType && stored.record.name? == some reference

/-- A record answers to its id and to its name. -/
theorem answersTo_eq (stored : StoredRecord) (entityType : EntityType) (reference : String) :
    stored.answersTo entityType reference =
      (stored.isAt entityType reference || stored.isCalled entityType reference) :=
  Bool.and_or_distrib_left _ _ _

/-- Among records without the id those that answer to it are those that are called so. -/
theorem find?_answersTo {records : List StoredRecord} {entityType : EntityType}
    {reference : String} (apart : ∀ stored ∈ records, stored.isAt entityType reference = false) :
    records.find? (·.answersTo entityType reference) =
      records.find? (·.isCalled entityType reference) :=
  List.find?_congr fun stored member => by
    rw [answersTo_eq, apart stored member, Bool.false_or]

end StoredRecord

namespace MemoryStore

/-- The records that come before the one with an id, or all of them if there is none. -/
def ahead (store : MemoryStore) (entityType : EntityType) (id : String) : List StoredRecord :=
  store.records.takeWhile fun stored => !stored.isAt entityType id

/-- None of them has the id. -/
theorem isAt_of_mem_ahead {store : MemoryStore} {entityType : EntityType} {id : String}
    {earlier : StoredRecord} (member : earlier ∈ store.ahead entityType id) :
    earlier.isAt entityType id = false := by
  have passes := List.mem_takeWhile_imp member
  exact Bool.not_eq_true' _ |>.mp passes

section Fetch

variable {store : MemoryStore} {entityType : EntityType} {reference : String}
  (unharmed : reference ∉ store.failing)
include unharmed

/-- **An id finds its record, or the first one ahead of it that is called so.** -/
theorem fetch?_of_at? {stored : StoredRecord}
    (held : store.at? ⟨entityType, reference⟩ = some stored) :
    store.fetch? entityType reference =
      .ok (((store.ahead entityType reference).find? (·.isCalled entityType reference)).getD
        stored).record := by
  have here : stored.answersTo entityType reference = true := by
    rw [StoredRecord.answersTo_eq, StoredRecord.isAt_iff.mpr (mem_of_at? held).2, Bool.true_or]
  have alike : (store.ahead entityType reference).find? (·.answersTo entityType reference) =
      (store.ahead entityType reference).find? (·.isCalled entityType reference) :=
    StoredRecord.find?_answersTo fun _ => isAt_of_mem_ahead
  obtain ⟨rest, onwards⟩ : ∃ rest, store.records.dropWhile
      (fun other => !other.isAt entityType reference) = stored :: rest :=
    List.head?_eq_some_iff.mp
      ((List.find?_eq_head?_dropWhile_not _ store.records).symm.trans held)
  have split : store.records = store.ahead entityType reference ++ stored :: rest :=
    onwards ▸ List.takeWhile_append_dropWhile.symm
  unfold fetch?
  rw [if_neg unharmed, split, List.find?_append, alike, List.find?_cons, here]
  cases (store.ahead entityType reference).find? (·.isCalled entityType reference) with
  | none => rfl
  | some namesake => rfl

/-- A record ahead of the one with an id is another one, so an id finds its own record just if none
of them is called so. -/
theorem fetch?_eq_own_iff {stored : StoredRecord}
    (held : store.at? ⟨entityType, reference⟩ = some stored) :
    store.fetch? entityType reference = .ok stored.record ↔
      ∀ earlier ∈ store.ahead entityType reference,
        earlier.isCalled entityType reference = false := by
  have own : stored.id = reference := congrArg Identity.id (mem_of_at? held).2
  rw [fetch?_of_at? unharmed held, Except.ok.injEq]
  cases found : (store.ahead entityType reference).find? (·.isCalled entityType reference) with
  | none =>
    rw [Option.getD_none]
    exact iff_of_true rfl fun earlier member =>
      Bool.eq_false_of_not_eq_true (List.find?_eq_none.mp found earlier member)
  | some namesake =>
    have member := List.mem_of_find?_eq_some found
    have called := List.find?_some found
    rw [Option.getD_some]
    refine iff_of_false (fun same => ?_) fun unnamed => ?_
    · have sameType : (namesake.entityType == entityType) = true :=
        (Bool.and_eq_true_iff.mp called).1
      have sameId : namesake.id = reference := by
        rw [← own, StoredRecord.id, StoredRecord.id, same]
      have here : namesake.isAt entityType reference = true := by
        rw [StoredRecord.isAt, sameType, sameId, beq_self_eq_true, Bool.and_self]
      rw [isAt_of_mem_ahead member] at here
      cases here
    · rw [unnamed namesake member] at called
      cases called

/-- A reference that is nobody's id finds the first record that is called so. -/
theorem fetch?_of_absent
    (absent : ∀ stored ∈ store.records, stored.isAt entityType reference = false) :
    store.fetch? entityType reference =
      match store.records.find? (·.isCalled entityType reference) with
      | some stored => .ok stored.record
      | none => .error (.notFound (entityType.tag ++ " " ++ reference)) := by
  rw [← StoredRecord.find?_answersTo absent]
  exact if_neg unharmed

end Fetch

/-- What is fetched is the record of a member that answers to the reference. -/
theorem mem_of_fetch? {store : MemoryStore} {entityType : EntityType} {reference : String}
    {record : Record} (fetched : store.fetch? entityType reference = .ok record) :
    ∃ stored ∈ store.records, stored.answersTo entityType reference = true ∧
      stored.record = record := by
  unfold fetch? at fetched
  split at fetched
  · cases fetched
  · split at fetched
    · rename_i stored found
      have answers := List.find?_some found
      exact ⟨stored, List.mem_of_find?_eq_some found, answers, Except.ok.inj fetched⟩
    · cases fetched

/-- What is fetched answers to the reference, if it has an id. -/
theorem answersTo_of_fetch? {store : MemoryStore} {entityType : EntityType} {reference : String}
    {record : Record} (fetched : store.fetch? entityType reference = .ok record) {id : String}
    (known : record.id? = some id) : record.answersTo reference = true := by
  obtain ⟨stored, -, answers, rfl⟩ := mem_of_fetch? fetched
  have own : stored.id = id := by
    rw [StoredRecord.id, known]
    rfl
  rw [Record.answersTo_iff, known, Option.some.injEq, ← own]
  exact (StoredRecord.answersTo_iff.mp answers).2

/-- What is fetched from a sound store has an id. -/
theorem Sound.id?_of_fetch? {store : MemoryStore} (sound : store.Sound) {entityType : EntityType}
    {reference : String} {record : Record}
    (fetched : store.fetch? entityType reference = .ok record) : ∃ id, record.id? = some id := by
  obtain ⟨stored, member, -, rfl⟩ := mem_of_fetch? fetched
  exact ⟨stored.id, sound.identified stored member⟩

/-- **An id that is listed finds the record under it just if no record ahead of it has the id as its
name.** Otherwise the first of those is fetched in its stead. A reference that is nobody's id finds
the first record that is called so, if there is one. -/
theorem fetch?_resolves {store : MemoryStore} (reachable : store.Reachable)
    (entityType : EntityType) {reference : String} (unharmed : reference ∉ store.failing) :
    (∀ scope, reference ∈ store.listIds entityType scope →
      ∃ stored, store.at? ⟨entityType, reference⟩ = some stored ∧
        stored.record.id? = some reference ∧
        store.fetch? entityType reference =
          .ok (((store.ahead entityType reference).find? (·.isCalled entityType reference)).getD
            stored).record ∧
        (store.fetch? entityType reference = .ok stored.record ↔
          ∀ earlier ∈ store.ahead entityType reference,
            earlier.isCalled entityType reference = false)) ∧
    ((∀ stored ∈ store.records, stored.isAt entityType reference = false) →
      store.fetch? entityType reference =
        match store.records.find? (·.isCalled entityType reference) with
        | some stored => .ok stored.record
        | none => .error (.notFound (entityType.tag ++ " " ++ reference))) := by
  refine ⟨fun scope listed => ?_, fetch?_of_absent unharmed⟩
  obtain ⟨other, member, same, -⟩ := mem_listIds.mp listed
  obtain ⟨stored, held⟩ := held_of_mem member same
  exact ⟨stored, held, reachable.sound.id?_of_at? held, fetch?_of_at? unharmed held,
    fetch?_eq_own_iff unharmed held⟩

/-- Two datasets, of which the first has the id of the second as its name. -/
def namesakes : MemoryStore :=
  (empty.put .package ((Record.idOnly "a").insert "name" (.text "b")) .active none).put .package
    (.idOnly "b") .draft none

theorem reachable_namesakes : namesakes.Reachable := .put _ _ _ _ (.put _ _ _ _ .empty)

/-- The id of the first of them finds its own record, and that of the second one does not. -/
theorem fetch?_resolves_of_namesakes :
    namesakes.Reachable ∧ "a" ∉ namesakes.failing ∧ "b" ∉ namesakes.failing ∧
      "a" ∈ namesakes.listIds .package .active ∧ "b" ∈ namesakes.listIds .package .notDeleted ∧
      (∃ stored, namesakes.at? ⟨.package, "a"⟩ = some stored ∧
        namesakes.fetch? .package "a" = .ok stored.record) ∧
      ∃ stored, namesakes.at? ⟨.package, "b"⟩ = some stored ∧
        namesakes.fetch? .package "b" ≠ .ok stored.record := by
  have nobody : "a" ∉ namesakes.failing := by decide
  have nobody' : "b" ∉ namesakes.failing := by decide
  have listed : "a" ∈ namesakes.listIds .package .active := by decide
  have listed' : "b" ∈ namesakes.listIds .package .notDeleted := by decide
  obtain ⟨first, held, -, -, own⟩ :=
    (fetch?_resolves reachable_namesakes .package nobody).1 .active listed
  obtain ⟨second, held', -, -, own'⟩ :=
    (fetch?_resolves reachable_namesakes .package nobody').1 .notDeleted listed'
  exact ⟨reachable_namesakes, nobody, nobody', listed, listed',
    ⟨first, held, own.mpr (by decide)⟩, second, held', mt own'.mp (by decide)⟩

/-- So it does not hold of every id that is listed that it finds the record under it. -/
theorem fetch?_finds_namesake :
    ¬ ∀ (store : MemoryStore) (entityType : EntityType) (scope : IdScope) (id : String),
      store.Reachable → id ∈ store.listIds entityType scope → id ∉ store.failing →
        ∃ stored, store.at? ⟨entityType, id⟩ = some stored ∧
          store.fetch? entityType id = .ok stored.record := by
  intro law
  obtain ⟨stored, held, fetched⟩ := law namesakes .package .notDeleted "b" reachable_namesakes
    (by decide) (by decide)
  exact absurd ((fetch?_eq_own_iff (by decide) held).mp fetched) (by decide)

end MemoryStore

end CatalogSync
