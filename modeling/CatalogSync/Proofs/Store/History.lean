/-
**A store of record in memory and what was written to it.**

* `StoreWrite` — a change of the store, and `after` — the store that a row of changes makes of the
  empty one.
* `order` — the identities in the order in which they were first put. `latestPut?` and
  `latestState?` — what was last put under an identity, and the state that it was last given.
* `Recounts` — a store holds its records in that order, each as it was last put and in the state
  that it was last given. **`recounts_after`** — this is so after every row of changes, since every
  change keeps it so (`Recounts.apply`).
* `Recounts.listIds_eq`, `Recounts.summary?_eq` — so lists and summaries are read off the changes.
* `others_apply` — a change leaves all records of other identities as they are, and in their order.
  This holds of every store.
-/

import CatalogSync.Proofs.Store.Holdings
import Mathlib.Data.List.Induction

namespace CatalogSync

/-! ### Changes of a store -/

/-- A change of a store of record in memory. -/
inductive StoreWrite where
  | put (entityType : EntityType) (record : Record) (state : EntityState)
      (modified : Option Time.Instant)
  | setState (entityType : EntityType) (id : String) (state : EntityState)

namespace StoreWrite

/-- Makes the change. -/
def apply : StoreWrite → MemoryStore → MemoryStore
  | .put entityType record state modified, store => store.put entityType record state modified
  | .setState entityType id state, store => store.setState entityType id state

/-- The identity that the change is about. A record without an id has none. -/
def subject? : StoreWrite → Option Identity
  | .put entityType record _ _ => record.id?.map (Identity.mk entityType)
  | .setState entityType id _ => some ⟨entityType, id⟩

/-- The identity under which the change puts a record, if it does. -/
def puts? : StoreWrite → Option Identity
  | .put entityType record _ _ => record.id?.map (Identity.mk entityType)
  | .setState .. => none

/-- The record that the change brings and the time of its last change, if it brings one. -/
def brings? : StoreWrite → Option (Record × Option Time.Instant)
  | .put _ record _ modified => some (record, modified)
  | .setState .. => none

/-- The state that the change gives. -/
def state : StoreWrite → EntityState
  | .put _ _ state _ => state
  | .setState _ _ state => state

/-- What puts a record is about its identity. -/
theorem subject?_of_puts? {write : StoreWrite} {identity : Identity}
    (puts : write.puts? = some identity) : write.subject? = some identity := by
  cases write with
  | put entityType record state modified => exact puts
  | setState entityType id state => cases puts

/-- Whether the change is about the identity of a record. -/
def concerns (write : StoreWrite) (stored : StoredRecord) : Bool :=
  write.subject? == some stored.identity

end StoreWrite

namespace MemoryStore

/-! ### Replacing a record, seen from the others -/

/-- Without a record that passes the test nothing is replaced. -/
theorem replaceFirst_of_none {test : StoredRecord → Bool} {records : List StoredRecord}
    (absent : records.find? test = none) (replacement : StoredRecord → StoredRecord) :
    replaceFirst test replacement records = records := by
  induction records with
  | nil => rfl
  | cons head rest ih =>
    have fails := List.find?_eq_none.mp absent
    have rest' := List.find?_eq_none.mpr fun stored member =>
      fails stored (List.mem_cons_of_mem head member)
    rw [replaceFirst, if_neg (fails head List.mem_cons_self), ih rest']

/-- Replacing a record by one of its identity is not seen among records of other identities. -/
theorem filter_replaceFirst {wanted : Identity} (replacement : StoredRecord → StoredRecord)
    (same : ∀ stored, stored.identity = wanted → (replacement stored).identity = wanted)
    {test : StoredRecord → Bool} (other : ∀ stored, stored.identity = wanted → test stored = false)
    (records : List StoredRecord) :
    (replaceFirst (·.isAt wanted.entityType wanted.id) replacement records).filter test =
      records.filter test := by
  induction records with
  | nil => rfl
  | cons head rest ih =>
    unfold replaceFirst
    by_cases here : head.identity = wanted
    · rw [if_pos (StoredRecord.isAt_iff.mpr here),
        List.filter_cons_of_neg (ne_true_of_eq_false (other _ (same head here))),
        List.filter_cons_of_neg (ne_true_of_eq_false (other head here))]
    · rw [if_neg fun hit => here (StoredRecord.isAt_iff.mp hit), List.filter_cons, List.filter_cons,
        ih]

/-- A record without an id changes nothing. -/
theorem put_of_nameless {record : Record} (nameless : record.id? = none) (store : MemoryStore)
    (entityType : EntityType) (state : EntityState) (modified : Option Time.Instant) :
    store.put entityType record state modified = store := by
  unfold put
  rw [nameless]

/-- Giving a state to a record that is not there changes nothing. -/
theorem setState_of_free {store : MemoryStore} {entityType : EntityType} {id : String}
    (free : store.at? ⟨entityType, id⟩ = none) (state : EntityState) :
    store.setState entityType id state = store := by
  have kept := replaceFirst_of_none free fun stored => { stored with state }
  unfold setState
  rw [kept]

/-- **A change leaves all records of other identities as they are, and in their order.** -/
theorem others_apply (write : StoreWrite) (store : MemoryStore) :
    (write.apply store).records.filter (!write.concerns ·) =
      store.records.filter (!write.concerns ·) := by
  have hidden : ∀ {identity : Identity}, write.subject? = some identity → ∀ stored,
      stored.identity = identity → (!write.concerns stored) = false := by
    intro identity about stored same
    exact Bool.not_eq_false' _ |>.mpr (beq_iff_eq.mpr (about.trans (congrArg some same.symm)))
  cases write with
  | put entityType record state modified =>
    cases known : record.id? with
    | none => rw [StoreWrite.apply, put_of_nameless known]
    | some id =>
      have own : StoredRecord.identity ⟨entityType, record, state, modified⟩ = ⟨entityType, id⟩ :=
        StoredRecord.identity_of_id known state modified
      have about : StoreWrite.subject? (.put entityType record state modified) =
          some ⟨entityType, id⟩ := congrArg (Option.map _) known
      rw [StoreWrite.apply]
      cases held : store.at? ⟨entityType, id⟩ with
      | some old =>
        rw [put_of_held known held]
        exact filter_replaceFirst _ (fun _ _ => own) (hidden about) store.records
      | none =>
        rw [put_of_free known held, List.filter_append]
        simp only [List.filter_cons, hidden about _ own, Bool.false_eq_true, if_false,
          List.filter_nil, List.append_nil]
  | setState entityType id state =>
    have about : StoreWrite.subject? (.setState entityType id state) = some ⟨entityType, id⟩ := rfl
    exact filter_replaceFirst (fun stored => { stored with state }) (fun _ same => same)
      (hidden about) store.records

/-- So what is held under another identity stays. -/
theorem at?_apply {write : StoreWrite} {other : Identity} (apart : write.subject? ≠ some other)
    (store : MemoryStore) : (write.apply store).at? other = store.at? other := by
  cases write with
  | put entityType record state modified =>
    cases known : record.id? with
    | none => rw [StoreWrite.apply, put_of_nameless known]
    | some id =>
      rw [StoreWrite.subject?, known, Option.map_some, Ne, Option.some.injEq] at apart
      rw [StoreWrite.apply, at?_put known, if_neg apart]
  | setState entityType id state =>
    rw [StoreWrite.subject?, Ne, Option.some.injEq] at apart
    rw [StoreWrite.apply, at?_setState, if_neg apart]

/-! ### What the changes say -/

/-- The store that a row of changes makes of the empty one. -/
def after (writes : List StoreWrite) : MemoryStore :=
  writes.foldl (fun store write => write.apply store) empty

theorem after_concat (writes : List StoreWrite) (write : StoreWrite) :
    after (writes ++ [write]) = write.apply (after writes) := by
  unfold after
  rw [List.foldl_concat]

/-- The identities in the order in which they were first put. -/
def order (writes : List StoreWrite) : List Identity :=
  (writes.filterMap StoreWrite.puts?).eraseDups

/-- The last of the changes that passes a test. -/
def latest? (test : StoreWrite → Bool) (writes : List StoreWrite) : Option StoreWrite :=
  writes.reverse.find? test

/-- The record that was last put under an identity, and the time of its last change. -/
def latestPut? (writes : List StoreWrite) (identity : Identity) :
    Option (Record × Option Time.Instant) :=
  (latest? (·.puts? == some identity) writes).bind StoreWrite.brings?

/-- The state in the last change that is about an identity. -/
def latestState? (writes : List StoreWrite) (identity : Identity) : Option EntityState :=
  (latest? (·.subject? == some identity) writes).map StoreWrite.state

section Concat

variable {writes : List StoreWrite} {write : StoreWrite} {identity : Identity}

theorem latest?_concat (test : StoreWrite → Bool) :
    latest? test (writes ++ [write]) = if test write then some write else latest? test writes := by
  unfold latest?
  rw [List.reverse_concat, List.find?_cons]
  cases test write with
  | true => rfl
  | false => rfl

theorem mem_of_latest? {test : StoreWrite → Bool} (last : latest? test writes = some write) :
    write ∈ writes ∧ test write = true :=
  ⟨List.mem_reverse.mp (List.mem_of_find?_eq_some last), List.find?_some last⟩

theorem exists_latest? (test : StoreWrite → Bool) (member : write ∈ writes)
    (passes : test write = true) : ∃ last, latest? test writes = some last := by
  unfold latest?
  rw [← Option.isSome_iff_exists, List.find?_isSome]
  exact ⟨write, List.mem_reverse.mpr member, passes⟩

/-- A change that puts nothing leaves the order as it is. -/
theorem order_concat_of_none (nothing : write.puts? = none) :
    order (writes ++ [write]) = order writes := by
  unfold order
  rw [List.filterMap_append, List.filterMap_cons_none nothing, List.filterMap_nil, List.append_nil]

/-- An identity that was put before keeps its place, and a new one comes last. -/
theorem order_concat_of_some (puts : write.puts? = some identity) :
    order (writes ++ [write]) =
      if identity ∈ order writes then order writes else order writes ++ [identity] := by
  unfold order
  rw [List.filterMap_append, List.filterMap_cons_some puts, List.filterMap_nil,
    List.eraseDups_append]
  simp only [List.mem_eraseDups, List.removeAll, List.elem_eq_mem]
  by_cases known : identity ∈ writes.filterMap StoreWrite.puts?
  · rw [if_pos known, List.filter_cons_of_neg (by simp only [known]; decide)]
    exact List.append_nil _
  · rw [if_neg known, List.filter_cons_of_pos (by simp only [known]; decide)]
    rfl

theorem latestPut?_of_puts (puts : write.puts? = some identity) :
    latestPut? (writes ++ [write]) identity = write.brings? := by
  unfold latestPut?
  rw [latest?_concat, if_pos (beq_iff_eq.mpr puts)]
  rfl

theorem latestPut?_of_other (other : write.puts? ≠ some identity) :
    latestPut? (writes ++ [write]) identity = latestPut? writes identity := by
  unfold latestPut?
  rw [latest?_concat, if_neg fun hit => other (eq_of_beq hit)]

theorem latestState?_of_subject (about : write.subject? = some identity) :
    latestState? (writes ++ [write]) identity = some write.state := by
  unfold latestState?
  rw [latest?_concat, if_pos (beq_iff_eq.mpr about)]
  rfl

theorem latestState?_of_other (other : write.subject? ≠ some identity) :
    latestState? (writes ++ [write]) identity = latestState? writes identity := by
  unfold latestState?
  rw [latest?_concat, if_neg fun hit => other (eq_of_beq hit)]

end Concat

section Latest

variable {writes : List StoreWrite} {identity : Identity}

/-- Something was last put under an identity just if something was put. -/
theorem latestPut?_isSome_iff :
    (latestPut? writes identity).isSome = true ↔
      ∃ write ∈ writes, write.puts? = some identity := by
  unfold latestPut?
  constructor
  · intro found
    obtain ⟨put, brought⟩ := Option.isSome_iff_exists.mp found
    obtain ⟨write, last, -⟩ := Option.bind_eq_some_iff.mp brought
    obtain ⟨member, passes⟩ := mem_of_latest? last
    exact ⟨write, member, eq_of_beq passes⟩
  · rintro ⟨write, member, puts⟩
    obtain ⟨last, known⟩ := exists_latest? (·.puts? == some identity) member (beq_iff_eq.mpr puts)
    have puts' := eq_of_beq (mem_of_latest? known).2
    rw [known]
    cases last with
    | put entityType record state modified => rfl
    | setState entityType id state => cases puts'

/-- What was put was given a state. -/
theorem latestState?_of_latestPut? {put : Record × Option Time.Instant}
    (found : latestPut? writes identity = some put) :
    ∃ state, latestState? writes identity = some state := by
  obtain ⟨write, member, puts⟩ := latestPut?_isSome_iff.mp (Option.isSome_of_mem found)
  obtain ⟨last, known⟩ := exists_latest? (·.subject? == some identity) member
    (beq_iff_eq.mpr (StoreWrite.subject?_of_puts? puts))
  exact ⟨last.state, Option.map_eq_some_iff.mpr ⟨last, known, rfl⟩⟩

end Latest

/-! ### The store after the changes -/

/-- The store holds its records in the order in which they were first put, each as it was last put
and in the state that it was last given. -/
structure Recounts (writes : List StoreWrite) (store : MemoryStore) : Prop where
  identities : store.records.map StoredRecord.identity = order writes
  held : ∀ identity, store.at? identity = (latestPut? writes identity).bind fun put =>
    (latestState? writes identity).map fun state => ⟨identity.entityType, put.1, state, put.2⟩

namespace Recounts

variable {writes : List StoreWrite} {store : MemoryStore} (recounts : Recounts writes store)
include recounts

/-- What was put is held, and nothing else. -/
theorem mem_order_iff_held {identity : Identity} :
    identity ∈ order writes ↔ ∃ stored, store.at? identity = some stored := by
  rw [← recounts.identities, List.mem_map]
  constructor
  · rintro ⟨stored, member, same⟩
    exact held_of_mem member same
  · rintro ⟨stored, held⟩
    exact ⟨stored, mem_of_at? held⟩

/-- A change says nothing new of other identities. -/
theorem held_of_apart {write : StoreWrite} {other : Identity}
    (apart : write.subject? ≠ some other) :
    (write.apply store).at? other = (latestPut? (writes ++ [write]) other).bind fun put =>
      (latestState? (writes ++ [write]) other).map fun state =>
        ⟨other.entityType, put.1, state, put.2⟩ := by
  have unput : write.puts? ≠ some other := fun puts => apart (StoreWrite.subject?_of_puts? puts)
  rw [at?_apply apart, recounts.held, latestPut?_of_other unput, latestState?_of_other apart]

/-- A record that is put is the last one put under its identity. -/
theorem put {record : Record} {id : String} (known : record.id? = some id)
    (entityType : EntityType) (state : EntityState) (modified : Option Time.Instant) :
    Recounts (writes ++ [.put entityType record state modified])
      (StoreWrite.apply (.put entityType record state modified) store) := by
  have puts : StoreWrite.puts? (.put entityType record state modified) = some ⟨entityType, id⟩ :=
    congrArg (Option.map _) known
  have about := StoreWrite.subject?_of_puts? puts
  have own : StoredRecord.identity ⟨entityType, record, state, modified⟩ = ⟨entityType, id⟩ :=
    StoredRecord.identity_of_id known state modified
  constructor
  · rw [order_concat_of_some puts, StoreWrite.apply]
    cases held : store.at? ⟨entityType, id⟩ with
    | some old =>
      have before : ⟨entityType, id⟩ ∈ order writes := recounts.mem_order_iff_held.mpr ⟨old, held⟩
      rw [if_pos before, put_of_held known held, ← recounts.identities]
      exact identities_replaceFirst ⟨entityType, id⟩ _ (fun _ _ => own) store.records
    | none =>
      have fresh : ⟨entityType, id⟩ ∉ order writes := fun before => by
        obtain ⟨old, held'⟩ := recounts.mem_order_iff_held.mp before
        cases held.symm.trans held'
      rw [if_neg fresh, put_of_free known held, List.map_append, recounts.identities,
        List.map_singleton, own]
  · intro other
    by_cases same : ⟨entityType, id⟩ = other
    · subst same
      rw [StoreWrite.apply, at?_put known, if_pos rfl, latestPut?_of_puts puts,
        latestState?_of_subject about]
      rfl
    · exact recounts.held_of_apart fun about' => same (Option.some.inj (about.symm.trans about'))

/-- A record without an id says nothing. -/
theorem put_nameless {record : Record} (nameless : record.id? = none) (entityType : EntityType)
    (state : EntityState) (modified : Option Time.Instant) :
    Recounts (writes ++ [.put entityType record state modified])
      (StoreWrite.apply (.put entityType record state modified) store) := by
  have nothing : StoreWrite.puts? (.put entityType record state modified) = none :=
    congrArg (Option.map _) nameless
  have nobody : StoreWrite.subject? (.put entityType record state modified) = none := nothing
  refine ⟨?_, fun other => recounts.held_of_apart (by rw [nobody]; exact nofun)⟩
  rw [order_concat_of_none nothing, StoreWrite.apply, put_of_nameless nameless,
    recounts.identities]

/-- A state that is given is the last one given to its identity. -/
theorem setState (entityType : EntityType) (id : String) (state : EntityState) :
    Recounts (writes ++ [.setState entityType id state])
      (StoreWrite.apply (.setState entityType id state) store) := by
  have about : StoreWrite.subject? (.setState entityType id state) = some ⟨entityType, id⟩ := rfl
  have unput : StoreWrite.puts? (.setState entityType id state) ≠ some ⟨entityType, id⟩ := nofun
  constructor
  · rw [order_concat_of_none rfl, ← recounts.identities]
    exact identities_replaceFirst ⟨entityType, id⟩ (fun stored => { stored with state })
      (fun _ same => same) store.records
  · intro other
    by_cases same : ⟨entityType, id⟩ = other
    · subst same
      rw [StoreWrite.apply, at?_setState, if_pos rfl, recounts.held,
        latestPut?_of_other unput, latestState?_of_subject about]
      -- a state that comes before the first record of its identity finds nothing to change
      cases put : latestPut? writes ⟨entityType, id⟩ with
      | none => rfl
      | some put' =>
        obtain ⟨before, known⟩ := latestState?_of_latestPut? put
        rw [known]
        rfl
    · exact recounts.held_of_apart fun about' => same (Option.some.inj (about.symm.trans about'))

/-- **Every change goes on with the account.** -/
theorem apply (write : StoreWrite) : Recounts (writes ++ [write]) (write.apply store) := by
  cases write with
  | put entityType record state modified =>
    cases known : record.id? with
    | none => exact recounts.put_nameless known entityType state modified
    | some id => exact recounts.put known entityType state modified
  | setState entityType id state => exact recounts.setState entityType id state

end Recounts

/-- **A store recounts all changes that were made to the empty one.** -/
theorem recounts_after (writes : List StoreWrite) : Recounts writes (after writes) := by
  induction writes using List.reverseRecOn with
  | nil => exact ⟨rfl, fun _ => rfl⟩
  | append_singleton writes write ih =>
    rw [after_concat]
    exact ih.apply write

/-- A store that changes made of the empty one can come about. -/
theorem reachable_after (writes : List StoreWrite) : (after writes).Reachable := by
  induction writes using List.reverseRecOn with
  | nil => exact .empty
  | append_singleton writes write ih =>
    rw [after_concat]
    cases write with
    | put entityType record state modified => exact .put entityType record state modified ih
    | setState entityType id state => exact .setState entityType id state ih

/-! ### Lists and summaries -/

/-- The ids of a type whose latest state is in a scope, in the order in which they were first
put. -/
def listed (writes : List StoreWrite) (entityType : EntityType) (scope : IdScope) : List String :=
  ((order writes).filter fun identity => identity.entityType == entityType &&
    (latestState? writes identity).any scope.includes).map Identity.id

section

variable {writes : List StoreWrite} {store : MemoryStore} (recounts : Recounts writes store)
include recounts

/-- A record is in the state that it was last given. -/
theorem Recounts.latestState?_of_mem (sound : store.Sound) {stored : StoredRecord}
    (member : stored ∈ store.records) :
    latestState? writes stored.identity = some stored.state := by
  have held := sound.at?_of_mem member rfl
  rw [recounts.held, Option.bind_eq_some_iff] at held
  obtain ⟨put, -, given⟩ := held
  obtain ⟨state, known, shown⟩ := Option.map_eq_some_iff.mp given
  exact known.trans (congrArg (some ∘ StoredRecord.state) shown)

/-- **The ids that are listed are read off the changes.** -/
theorem Recounts.listIds_eq (sound : store.Sound) (entityType : EntityType) (scope : IdScope) :
    store.listIds entityType scope = listed writes entityType scope := by
  unfold listIds listed
  -- the test on identities is the test on records, since each identity has one record
  rw [← recounts.identities, List.filter_map, List.map_map]
  refine congrArg (List.map StoredRecord.id) (List.filter_congr fun stored member => ?_)
  rw [Function.comp_apply, recounts.latestState?_of_mem sound member]
  rfl

/-- **So are summaries.** -/
theorem Recounts.summary?_eq (entityType : EntityType) (id : String) :
    store.summary? entityType id = (latestPut? writes ⟨entityType, id⟩).map fun put =>
      ⟨id, put.1.name?.getD "", put.2⟩ := by
  rw [summary?_eq_at?]
  cases put : latestPut? writes ⟨entityType, id⟩ with
  | none =>
    rw [recounts.held, put]
    rfl
  | some brought =>
    obtain ⟨state, known⟩ := latestState?_of_latestPut? put
    have held := recounts.held ⟨entityType, id⟩
    rw [put, known, Option.bind_some, Option.map_some] at held
    have own : StoredRecord.id ⟨entityType, brought.1, state, brought.2⟩ = id :=
      congrArg Identity.id (mem_of_at? held).2
    rw [held, Option.map_some, Option.map_some, StoredRecord.summary, own]

end

/-! ### The main statement -/

/-- **After every row of changes a store in memory is the map that these changes make, in the order
in which its identities were first put.** No identity is held twice. The ids of a type that are
listed are those whose latest state is in the scope, and the summaries are those of the records that
were last put, whatever their state. A record without an id and a state for an identity that was
never put change nothing. And no change is seen under another identity. -/
theorem reads_history (writes : List StoreWrite) :
    ((after writes).records.map StoredRecord.identity = order writes ∧ (order writes).Nodup) ∧
      (∀ entityType scope,
        (store.enumerate entityType scope).effect (after writes) =
            (.ok (listed writes entityType scope), after writes) ∧
          (listed writes entityType scope).Nodup) ∧
      (∀ entityType id,
        (store.summarize entityType id).effect (after writes) =
            (.ok ((latestPut? writes ⟨entityType, id⟩).map fun put =>
              ⟨id, put.1.name?.getD "", put.2⟩), after writes) ∧
          ((latestPut? writes ⟨entityType, id⟩).isSome = true ↔
            ∃ write ∈ writes, write.puts? = some ⟨entityType, id⟩)) ∧
      (∀ entityType record state modified, record.id? = none →
        after (writes ++ [.put entityType record state modified]) = after writes) ∧
      (∀ entityType id state, ⟨entityType, id⟩ ∉ order writes →
        after (writes ++ [.setState entityType id state]) = after writes) ∧
      ∀ write : StoreWrite,
        (after (writes ++ [write])).records.filter (!write.concerns ·) =
            (after writes).records.filter (!write.concerns ·) ∧
          ∀ other, write.subject? ≠ some other →
            (after (writes ++ [write])).at? other = (after writes).at? other := by
  have recounts := recounts_after writes
  have sound := (reachable_after writes).sound
  refine ⟨⟨recounts.identities, recounts.identities ▸ sound.distinct⟩,
    fun entityType scope => ?_, fun entityType id => ?_,
    fun entityType record state modified nameless => ?_, fun entityType id state absent => ?_,
    fun write => ?_⟩
  · rw [← recounts.listIds_eq sound]
    exact ⟨rfl, sound.nodup_listIds entityType scope⟩
  · rw [← recounts.summary?_eq]
    exact ⟨rfl, latestPut?_isSome_iff⟩
  · rw [after_concat, StoreWrite.apply, put_of_nameless nameless]
  · have free : (after writes).at? ⟨entityType, id⟩ = none :=
      Option.eq_none_iff_forall_ne_some.mpr fun stored held =>
        absent (recounts.mem_order_iff_held.mpr ⟨stored, held⟩)
    rw [after_concat, StoreWrite.apply, setState_of_free free]
  · rw [after_concat]
    exact ⟨others_apply write _, fun other apart => at?_apply apart _⟩

/-- Two datasets and a group are put, the group under the id of the first dataset. That dataset is
deleted and put again under another name. There are also a state that comes too early, one for a
dataset that is never put, and a record without an id. -/
def crowded : List StoreWrite :=
  let called (id name : String) := (Record.idOnly id).insert "name" (.text name)
  [.setState .package "a" .active, .put .package (called "a" "alpha") .draft none,
    .put ⟨"group"⟩ (called "a" "gamma") .draft none, .put .package (called "b" "beta") .active none,
    .put .package .empty .active none, .setState .package "a" .deleted,
    .put .package (called "a" "new") .active (some ⟨7, 0⟩), .setState .package "b" .draft,
    .setState .package "c" .active]

/-- The first dataset has kept its place and the group its name. -/
theorem reads_history_of_crowded :
    (store.enumerate .package .notDeleted).effect (after crowded) =
        (.ok ["a", "b"], after crowded) ∧
      (store.enumerate .package .active).effect (after crowded) = (.ok ["a"], after crowded) ∧
      (store.summarize .package "a").effect (after crowded) =
        (.ok (some ⟨"a", "new", some ⟨7, 0⟩⟩), after crowded) ∧
      (store.summarize ⟨"group"⟩ "a").effect (after crowded) =
        (.ok (some ⟨"a", "gamma", none⟩), after crowded) ∧
      (store.summarize .package "c").effect (after crowded) = (.ok none, after crowded) ∧
      after (crowded ++ [.put .package .empty .draft none]) = after crowded ∧
      after (crowded ++ [.setState .package "c" .draft]) = after crowded ∧
      (after (crowded ++ [.setState .package "a" .deleted])).at? ⟨⟨"group"⟩, "a"⟩ =
        (after crowded).at? ⟨⟨"group"⟩, "a"⟩ := by
  obtain ⟨-, lists, summaries, nameless, absent, others⟩ := reads_history crowded
  refine ⟨(lists .package .notDeleted).1, (lists .package .active).1, (summaries .package "a").1,
    (summaries ⟨"group"⟩ "a").1, (summaries .package "c").1, nameless _ _ _ _ rfl,
    absent _ _ _ (by decide), (others _).2 _ (by decide)⟩

end MemoryStore

end CatalogSync
