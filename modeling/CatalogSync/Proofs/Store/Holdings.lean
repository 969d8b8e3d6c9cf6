/-
**A store of record in memory as a map from identities.**

* `at?` — the record that the store holds under an identity. `at?_put` and `at?_setState` say what
  the two ways of changing the store do to it: they concern one identity and no other.
* `Sound` — every record has an id, and no two have the same identity.
* **`Reachable.sound`** — every store that can come about is sound.
* `fetch?_of_held` — a reference that is the name of no other record finds the record whose id it
  is.
* `mem_listIds` — which ids are listed, and `Sound.active_listIds` — how the list of the active
  ones comes out of the list of those that are not deleted.
-/

import CatalogSync.Store.Memory
import Mathlib.Data.List.Find
import Mathlib.Data.List.Nodup

namespace CatalogSync

/-! ### Identities of records -/

namespace StoredRecord

/-- What tells the record from all others. -/
def identity (stored : StoredRecord) : Identity := ⟨stored.entityType, stored.id⟩

theorem identity_of_id {entityType : EntityType} {record : Record} {id : String}
    (known : record.id? = some id) (state : EntityState) (modified : Option Time.Instant) :
    StoredRecord.identity ⟨entityType, record, state, modified⟩ = ⟨entityType, id⟩ := by
  unfold identity StoredRecord.id
  rw [known]
  rfl

theorem isAt_iff {stored : StoredRecord} {entityType : EntityType} {id : String} :
    stored.isAt entityType id = true ↔ stored.identity = ⟨entityType, id⟩ := by
  unfold isAt identity
  rw [Bool.and_eq_true, beq_iff_eq, beq_iff_eq, Identity.mk.injEq]

theorem isAt_eq_false {stored : StoredRecord} {identity : Identity}
    (apart : ¬ stored.identity = identity) :
    stored.isAt identity.entityType identity.id = false :=
  Bool.eq_false_iff.mpr fun hit => apart (isAt_iff.mp hit)

theorem answersTo_iff {stored : StoredRecord} {entityType : EntityType} {reference : String} :
    stored.answersTo entityType reference = true ↔
      stored.entityType = entityType ∧
        (stored.id = reference ∨ stored.record.name? = some reference) := by
  unfold answersTo
  rw [Bool.and_eq_true, Bool.or_eq_true, beq_iff_eq, beq_iff_eq, beq_iff_eq]

end StoredRecord

namespace MemoryStore

/-! ### Replacing a record -/

section Replacing

variable (wanted : Identity) (replacement : StoredRecord → StoredRecord)

/-- Replacing a record by one of the same identity changes the identities of a list in nothing. -/
theorem identities_replaceFirst
    (same : ∀ stored, stored.identity = wanted → (replacement stored).identity = wanted)
    (records : List StoredRecord) :
    (replaceFirst (·.isAt wanted.entityType wanted.id) replacement records).map
      StoredRecord.identity = records.map StoredRecord.identity := by
  induction records with
  | nil => rfl
  | cons head rest ih =>
    unfold replaceFirst
    split
    · rename_i here
      have own : head.identity = wanted := StoredRecord.isAt_iff.mp here
      rw [List.map_cons, List.map_cons, same head own, own]
    · rw [List.map_cons, List.map_cons, ih]

/-- The members of the list after one of them is replaced. -/
theorem mem_replaceFirst {test : StoredRecord → Bool} {records : List StoredRecord}
    {stored : StoredRecord} (member : stored ∈ replaceFirst test replacement records) :
    stored ∈ records ∨ ∃ old ∈ records, test old = true ∧ stored = replacement old := by
  induction records with
  | nil => cases member
  | cons head rest ih =>
    unfold replaceFirst at member
    split at member
    · rename_i here
      rcases List.mem_cons.mp member with new | kept
      · exact .inr ⟨head, List.mem_cons_self, here, new⟩
      · exact .inl (List.mem_cons_of_mem head kept)
    · rcases List.mem_cons.mp member with first | later
      · exact .inl (first ▸ List.mem_cons_self)
      · rcases ih later with kept | ⟨old, inside, passes, new⟩
        · exact .inl (List.mem_cons_of_mem head kept)
        · exact .inr ⟨old, List.mem_cons_of_mem head inside, passes, new⟩

/-- The first record under an identity after the first one under an identity is replaced. -/
theorem find?_replaceFirst
    (same : ∀ stored, stored.identity = wanted → (replacement stored).identity = wanted)
    (records : List StoredRecord) (other : Identity) :
    (replaceFirst (·.isAt wanted.entityType wanted.id) replacement records).find?
        (·.isAt other.entityType other.id) =
      if wanted = other then
        (records.find? (·.isAt other.entityType other.id)).map replacement
      else records.find? (·.isAt other.entityType other.id) := by
  induction records with
  | nil => simp [replaceFirst]
  | cons head rest ih =>
    unfold replaceFirst
    by_cases here : head.identity = wanted
    · rw [if_pos (StoredRecord.isAt_iff.mpr here)]
      have new : (replacement head).identity = wanted := same head here
      by_cases apart : wanted = other
      · have hitsOld := StoredRecord.isAt_iff.mpr (here.trans apart)
        have hitsNew := StoredRecord.isAt_iff.mpr (new.trans apart)
        simp only [if_pos apart, List.find?_cons, hitsOld, hitsNew, Option.map_some]
      · have missesOld := StoredRecord.isAt_eq_false fun hit => apart (here.symm.trans hit)
        have missesNew := StoredRecord.isAt_eq_false fun hit => apart (new.symm.trans hit)
        simp only [if_neg apart, List.find?_cons, missesOld, missesNew]
    · rw [if_neg fun hit => here (StoredRecord.isAt_iff.mp hit)]
      by_cases hit : head.identity = other
      · have apart : ¬ wanted = other := fun equal => here (hit.trans equal.symm)
        have hits := StoredRecord.isAt_iff.mpr hit
        simp only [if_neg apart, List.find?_cons, hits]
      · have misses := StoredRecord.isAt_eq_false hit
        simp only [List.find?_cons, misses, ih]

end Replacing

/-! ### The record under an identity -/

/-- The record that the store holds under an identity. -/
def at? (store : MemoryStore) (identity : Identity) : Option StoredRecord :=
  store.records.find? (·.isAt identity.entityType identity.id)

theorem mem_of_at? {store : MemoryStore} {identity : Identity} {stored : StoredRecord}
    (held : store.at? identity = some stored) :
    stored ∈ store.records ∧ stored.identity = identity := by
  have hit := List.find?_some held
  exact ⟨List.mem_of_find?_eq_some held, StoredRecord.isAt_iff.mp hit⟩

/-- There is a record under an identity if some record has it. -/
theorem any_isAt (store : MemoryStore) (identity : Identity) :
    store.records.any (·.isAt identity.entityType identity.id) = (store.at? identity).isSome := by
  unfold at?
  rw [List.isSome_find?]

/-- If some record has an identity, one is held under it. -/
theorem held_of_mem {store : MemoryStore} {identity : Identity} {stored : StoredRecord}
    (member : stored ∈ store.records) (same : stored.identity = identity) :
    ∃ found, store.at? identity = some found := by
  rw [← Option.isSome_iff_exists, ← any_isAt, List.any_eq_true]
  exact ⟨stored, member, StoredRecord.isAt_iff.mpr same⟩

section Put

variable {store : MemoryStore} {entityType : EntityType} {record : Record} {id : String}

/-- A record that is put where there is one already takes its place. -/
theorem put_of_held (known : record.id? = some id) {old : StoredRecord}
    (held : store.at? ⟨entityType, id⟩ = some old) (state : EntityState)
    (modified : Option Time.Instant) :
    store.put entityType record state modified =
      { store with
        records := replaceFirst (·.isAt entityType id)
          (fun _ => ⟨entityType, record, state, modified⟩) store.records } := by
  have present : store.records.any (·.isAt entityType id) = true := by
    refine (any_isAt store ⟨entityType, id⟩).trans ?_
    rw [held]
    rfl
  unfold put
  rw [known]
  exact if_pos present

/-- A record that is put where there is none comes last. -/
theorem put_of_free (known : record.id? = some id)
    (free : store.at? ⟨entityType, id⟩ = none) (state : EntityState)
    (modified : Option Time.Instant) :
    store.put entityType record state modified =
      { store with
        records := store.records ++ [⟨entityType, record, state, modified⟩] } := by
  have absent : store.records.any (·.isAt entityType id) = false := by
    refine (any_isAt store ⟨entityType, id⟩).trans ?_
    rw [free]
    rfl
  unfold put
  rw [known]
  exact if_neg (by rw [absent]; exact Bool.false_ne_true)

/-- **Putting a record concerns its own identity and no other.** -/
theorem at?_put (known : record.id? = some id) (state : EntityState)
    (modified : Option Time.Instant) (other : Identity) :
    (store.put entityType record state modified).at? other =
      if ⟨entityType, id⟩ = other then some ⟨entityType, record, state, modified⟩
      else store.at? other := by
  have own : StoredRecord.identity ⟨entityType, record, state, modified⟩ = ⟨entityType, id⟩ :=
    StoredRecord.identity_of_id known state modified
  cases held : store.at? ⟨entityType, id⟩ with
  | some old =>
    rw [put_of_held known held]
    refine (find?_replaceFirst ⟨entityType, id⟩ _ (fun _ _ => own) store.records other).trans ?_
    by_cases same : (⟨entityType, id⟩ : Identity) = other
    · have found : store.records.find? (·.isAt other.entityType other.id) = some old :=
        same ▸ held
      rw [if_pos same, if_pos same, found]
      rfl
    · rw [if_neg same, if_neg same]
      rfl
  | none =>
    rw [put_of_free known held]
    unfold at?
    rw [List.find?_append]
    by_cases same : (⟨entityType, id⟩ : Identity) = other
    · have nothing : store.records.find? (·.isAt other.entityType other.id) = none :=
        same ▸ held
      have hit := StoredRecord.isAt_iff.mpr (own.trans same)
      rw [if_pos same, nothing, Option.none_or]
      simp only [List.find?_cons, hit]
    · have misses := StoredRecord.isAt_eq_false fun hit => same (own.symm.trans hit)
      rw [if_neg same]
      simp only [List.find?_cons, misses, List.find?_nil, Option.or_none]

end Put

/-- **Changing the state of a record concerns its own identity and no other.** -/
theorem at?_setState (store : MemoryStore) (entityType : EntityType) (id : String)
    (state : EntityState) (other : Identity) :
    (store.setState entityType id state).at? other =
      if ⟨entityType, id⟩ = other then
        (store.at? other).map fun stored => { stored with state }
      else store.at? other :=
  find?_replaceFirst ⟨entityType, id⟩ (fun stored => { stored with state })
    (fun _ same => same) store.records other

/-! ### Sound stores -/

/-- Every record has an id, and no two records have the same identity. -/
structure Sound (store : MemoryStore) : Prop where
  identified : ∀ stored ∈ store.records, stored.record.id? = some stored.id
  distinct : (store.records.map StoredRecord.identity).Nodup

theorem sound_empty : empty.Sound := ⟨by simp [empty], by simp [empty]⟩

/-- A record that takes the place of one with its identity leaves the store sound. -/
theorem Sound.replaced {store : MemoryStore} (sound : store.Sound) (wanted : Identity)
    (replacement : StoredRecord → StoredRecord)
    (same : ∀ stored, stored.identity = wanted → (replacement stored).identity = wanted)
    (known : ∀ stored, stored.record.id? = some stored.id →
      (replacement stored).record.id? = some (replacement stored).id) :
    Sound { store with
      records := replaceFirst (·.isAt wanted.entityType wanted.id) replacement store.records } := by
  constructor
  · intro stored member
    rcases mem_replaceFirst replacement member with kept | ⟨old, inside, -, new⟩
    · exact sound.identified stored kept
    · rw [new]
      exact known old (sound.identified old inside)
  · show (List.map _ (replaceFirst _ _ _)).Nodup
    rw [identities_replaceFirst wanted replacement same]
    exact sound.distinct

/-- A record of a new identity leaves the store sound. -/
theorem Sound.appended {store : MemoryStore} (sound : store.Sound) {stored : StoredRecord}
    (known : stored.record.id? = some stored.id) (free : store.at? stored.identity = none) :
    Sound { store with records := store.records ++ [stored] } := by
  constructor
  · intro other member
    rcases List.mem_append.mp member with kept | new
    · exact sound.identified other kept
    · rw [List.mem_singleton.mp new]
      exact known
  · show (List.map _ (store.records ++ [stored])).Nodup
    rw [List.map_append, List.map_singleton]
    refine List.Nodup.append sound.distinct (List.nodup_singleton _) ?_
    rw [List.disjoint_singleton]
    intro there
    obtain ⟨other, member, same⟩ := List.mem_map.mp there
    have missed := List.find?_eq_none.mp free other member
    exact missed (StoredRecord.isAt_iff.mpr same)

theorem Sound.put {store : MemoryStore} (sound : store.Sound) (entityType : EntityType)
    (record : Record) (state : EntityState) (modified : Option Time.Instant) :
    (store.put entityType record state modified).Sound := by
  cases known : record.id? with
  | none =>
    unfold MemoryStore.put
    rw [known]
    exact sound
  | some id =>
    let stored : StoredRecord := ⟨entityType, record, state, modified⟩
    have own : stored.identity = ⟨entityType, id⟩ :=
      StoredRecord.identity_of_id known state modified
    have identified : stored.record.id? = some stored.id := by
      have ids : stored.id = id := congrArg Identity.id own
      rw [ids]
      exact known
    cases held : store.at? ⟨entityType, id⟩ with
    | some old =>
      rw [put_of_held known held]
      exact sound.replaced ⟨entityType, id⟩ (fun _ => stored) (fun _ _ => own)
        fun _ _ => identified
    | none =>
      rw [put_of_free known held]
      exact sound.appended identified (own ▸ held)

theorem Sound.setState {store : MemoryStore} (sound : store.Sound) (entityType : EntityType)
    (id : String) (state : EntityState) : (store.setState entityType id state).Sound :=
  sound.replaced ⟨entityType, id⟩ (fun stored => { stored with state }) (fun _ same => same)
    fun _ known => known

/-- The stores that can come about. -/
inductive Reachable : MemoryStore → Prop
  | empty : Reachable empty
  | put {store : MemoryStore} (entityType : EntityType) (record : Record) (state : EntityState)
      (modified : Option Time.Instant) :
      Reachable store → Reachable (store.put entityType record state modified)
  | setState {store : MemoryStore} (entityType : EntityType) (id : String) (state : EntityState) :
      Reachable store → Reachable (store.setState entityType id state)
  | failFetch {store : MemoryStore} (reference : String) :
      Reachable store → Reachable (store.failFetch reference)
  | commit {store : MemoryStore} :
      Reachable store → Reachable { store with commits := store.commits + 1 }

/-- **Every store that can come about is sound.** -/
theorem Reachable.sound {store : MemoryStore} (reachable : store.Reachable) : store.Sound := by
  induction reachable with
  | empty => exact sound_empty
  | put entityType record state modified _ ih => exact ih.put entityType record state modified
  | setState entityType id state _ ih => exact ih.setState entityType id state
  | failFetch reference _ ih => exact ⟨ih.identified, ih.distinct⟩
  | commit _ ih => exact ⟨ih.identified, ih.distinct⟩

/-- Records of one identity are one record. -/
theorem Sound.eq_of_identity {store : MemoryStore} (sound : store.Sound)
    {first second : StoredRecord} (here : first ∈ store.records) (there : second ∈ store.records)
    (same : first.identity = second.identity) : first = second :=
  List.inj_on_of_nodup_map sound.distinct here there same

/-- A record is held under its identity. -/
theorem Sound.at?_of_mem {store : MemoryStore} (sound : store.Sound) {stored : StoredRecord}
    {identity : Identity} (member : stored ∈ store.records) (own : stored.identity = identity) :
    store.at? identity = some stored := by
  obtain ⟨found, held⟩ := held_of_mem member own
  obtain ⟨there, same⟩ := mem_of_at? held
  rw [held, sound.eq_of_identity there member (same.trans own.symm)]

/-- What is held under an id has that id. -/
theorem Sound.id?_of_at? {store : MemoryStore} (sound : store.Sound) {entityType : EntityType}
    {id : String} {stored : StoredRecord} (held : store.at? ⟨entityType, id⟩ = some stored) :
    stored.record.id? = some id := by
  obtain ⟨member, identity⟩ := mem_of_at? held
  have own : stored.id = id := congrArg Identity.id identity
  rw [sound.identified stored member, own]

/-! ### Fetching by id -/

/-- A reference that is the name of no other record finds the record whose id it is. -/
theorem fetch?_of_held {store : MemoryStore} {entityType : EntityType} {id : String}
    {stored : StoredRecord} (held : store.at? ⟨entityType, id⟩ = some stored)
    (unharmed : id ∉ store.failing)
    (own : ∀ other ∈ store.records, other.entityType = entityType →
      other.record.name? = some id → other.id = id) :
    store.fetch? entityType id = .ok stored.record := by
  have alike : store.records.find? (·.answersTo entityType id) =
      store.records.find? (·.isAt entityType id) := by
    refine List.find?_congr fun other member => ?_
    have hits : other.isAt entityType id = true ↔ other.identity = ⟨entityType, id⟩ :=
      StoredRecord.isAt_iff
    rw [Bool.eq_iff_iff, StoredRecord.answersTo_iff, hits]
    unfold StoredRecord.identity
    rw [Identity.mk.injEq]
    refine and_congr_right fun sameType => ⟨fun answers => ?_, .inl⟩
    rcases answers with byId | byName
    · exact byId
    · exact own other member sameType byName
  unfold fetch?
  rw [if_neg unharmed, alike]
  unfold at? at held
  rw [held]

/-! ### Lists of ids -/

theorem mem_listIds {store : MemoryStore} {entityType : EntityType} {scope : IdScope}
    {id : String} :
    id ∈ store.listIds entityType scope ↔
      ∃ stored ∈ store.records, stored.identity = ⟨entityType, id⟩ ∧
        scope.includes stored.state = true := by
  unfold listIds StoredRecord.identity
  simp only [List.mem_map, List.mem_filter, Bool.and_eq_true, beq_iff_eq, Identity.mk.injEq]
  constructor
  · rintro ⟨stored, ⟨member, sameType, included⟩, sameId⟩
    exact ⟨stored, member, ⟨sameType, sameId⟩, included⟩
  · rintro ⟨stored, member, ⟨sameType, sameId⟩, included⟩
    exact ⟨stored, ⟨member, sameType, included⟩, sameId⟩

/-- No id is listed twice. -/
theorem Sound.nodup_listIds {store : MemoryStore} (sound : store.Sound) (entityType : EntityType)
    (scope : IdScope) : (store.listIds entityType scope).Nodup := by
  let listed := store.records.filter fun stored =>
    stored.entityType == entityType && scope.includes stored.state
  have identities : listed.map StoredRecord.identity =
      (listed.map StoredRecord.id).map (Identity.mk entityType) := by
    rw [List.map_map]
    refine List.map_congr_left fun stored member => ?_
    have passes := Bool.and_eq_true_iff.mp (List.mem_filter.mp member).2
    exact congrArg (Identity.mk · stored.id) (eq_of_beq passes.1)
  have distinct : (listed.map StoredRecord.identity).Nodup :=
    sound.distinct.sublist (List.filter_sublist.map _)
  rw [identities] at distinct
  exact distinct.of_map

/-- The active ids are the ids that are not deleted, without those that are not active. -/
theorem Sound.active_listIds {store : MemoryStore} (sound : store.Sound)
    (entityType : EntityType) :
    (store.listIds entityType .notDeleted).filter
        (fun id => decide (id ∈ store.listIds entityType .active)) =
      store.listIds entityType .active := by
  have alike : ∀ stored ∈ store.records,
      (decide (stored.id ∈ store.listIds entityType .active) &&
        (stored.entityType == entityType && IdScope.notDeleted.includes stored.state)) =
      (stored.entityType == entityType && IdScope.active.includes stored.state) := by
    intro stored member
    by_cases sameType : stored.entityType = entityType
    · have included : stored.id ∈ store.listIds entityType .active ↔
          IdScope.active.includes stored.state = true := by
        rw [mem_listIds]
        constructor
        · rintro ⟨other, inside, same, active⟩
          have own : other.identity = stored.identity := same.trans (by rw [← sameType]; rfl)
          rw [← sound.eq_of_identity inside member own]
          exact active
        · intro active
          exact ⟨stored, member, by rw [← sameType]; rfl, active⟩
      rw [Bool.eq_iff_iff]
      simp only [Bool.and_eq_true, decide_eq_true_eq, included, beq_iff_eq, sameType, true_and]
      unfold IdScope.includes
      cases stored.state with
      | active => simp
      | draft => simp
      | deleted => simp
    · have apart : (stored.entityType == entityType) = false := beq_eq_false_iff_ne.mpr sameType
      rw [apart, Bool.false_and, Bool.and_false, Bool.false_and]
  show List.filter _ (List.map _ _) = _
  rw [List.filter_map, List.filter_filter]
  exact congrArg (List.map StoredRecord.id) (List.filter_congr alike)

/-- A summary is that of the record under the identity. -/
theorem summary?_eq_at? (store : MemoryStore) (entityType : EntityType) (id : String) :
    store.summary? entityType id = (store.at? ⟨entityType, id⟩).map StoredRecord.summary := rfl

/-- What is listed has a summary. -/
theorem summary?_of_mem_listIds {store : MemoryStore} {entityType : EntityType} {scope : IdScope}
    {id : String} (listed : id ∈ store.listIds entityType scope) :
    ∃ summary, store.summary? entityType id = some summary ∧ summary.id = id := by
  obtain ⟨stored, member, same, -⟩ := mem_listIds.mp listed
  obtain ⟨found, held⟩ := held_of_mem member same
  refine ⟨found.summary, ?_, congrArg Identity.id (mem_of_at? held).2⟩
  rw [summary?_eq_at?, held, Option.map_some]

end MemoryStore

end CatalogSync
