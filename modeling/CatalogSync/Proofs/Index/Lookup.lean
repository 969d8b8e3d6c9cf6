/-
**Looking up documents in an index in memory.**

* `Keyed` — in both layers every document stands under its own id.
* **`Reachable.keyed`** — this is so in every index that can come about, since every call keeps it
  so (`Keyed.perform`).
* `first?` — the first visible record, by id, that answers to a reference. `Contested` — the
  reference is the id of a record and also the name of an earlier one, and just then the index finds
  another record (`first?_eq_find?_iff`).
* `Keyed.find?_eq_none_iff`, `Keyed.answersTo_of_find?` — a reference finds nothing just if no
  visible record answers to it, and otherwise a record that does. `Keyed.find?_eq_some_iff` says
  when it finds a given one.
* `Lacks` — nothing answers to a reference, in neither layer. This is so after a removal.
-/

import CatalogSync.Proofs.Index.Layers
import CatalogSync.Proofs.Index.Write
import CatalogSync.Proofs.SortedMap

namespace CatalogSync.MemoryIndex

/-! ### Documents under their ids -/

/-- In both layers every document stands under its own id. -/
structure Keyed (index : MemoryIndex) : Prop where
  visible : index.visible.Each fun id record => record.id? = some id
  pending : index.pending.Each fun id record => record.id? = some id

theorem keyed_empty : empty.Keyed := ⟨.empty, .empty⟩

namespace Keyed

variable {index : MemoryIndex} (keyed : index.Keyed)
include keyed

theorem noted (call : IndexCall) : (index.noted call).Keyed := ⟨keyed.visible, keyed.pending⟩

theorem settled : index.settled.Each fun id record => record.id? = some id :=
  keyed.visible.overlay keyed.pending

theorem committed : index.committed.Keyed := ⟨keyed.settled, .empty⟩

theorem without (reference : String) : (index.without reference).Keyed :=
  ⟨keyed.visible.filter _, keyed.pending.filter _⟩

theorem written (record : Record) (commit : Bool) : (index.written record commit).Keyed := by
  cases accepted : index.accept record with
  | error failure =>
    rw [written_of_error accepted]
    exact keyed
  | ok id =>
    have holding : (index.holding id record).Keyed :=
      ⟨keyed.visible, keyed.pending.insert (id?_of_accept accepted)⟩
    rw [written_of_ok accepted]
    cases commit with
    | false => exact holding
    | true => exact holding.committed

/-- **Every call keeps documents under their ids.** -/
theorem perform (write : IndexWrite) : ((write.perform writer).effect index).2.Keyed := by
  cases write with
  | insert record =>
    rw [IndexWrite.perform, effect_insert]
    exact (keyed.noted _).written record true
  | update record deferCommit =>
    rw [IndexWrite.perform, effect_update]
    exact (keyed.noted _).written record _
  | remove record =>
    cases known : record.id? with
    | none =>
      rw [IndexWrite.perform, effect_remove_of_nameless known]
      exact keyed
    | some id =>
      rw [IndexWrite.perform, effect_remove known]
      exact (keyed.noted _).without id
  | clear => exact ⟨.empty, .empty⟩
  | commit => exact (keyed.noted _).committed

end Keyed

/-- The indexes that can come about. -/
inductive Reachable : MemoryIndex → Prop
  | empty : Reachable empty
  | refuse {index : MemoryIndex} (id : String) : Reachable index → Reachable (index.refuse id)
  | perform {index : MemoryIndex} (write : IndexWrite) :
      Reachable index → Reachable ((write.perform writer).effect index).2

/-- **In every index that can come about documents stand under their ids.** -/
theorem Reachable.keyed {index : MemoryIndex} (reachable : index.Reachable) : index.Keyed := by
  induction reachable with
  | empty => exact keyed_empty
  | refuse id _ ih => exact ⟨ih.visible, ih.pending⟩
  | perform write _ ih => exact ih.perform write

/-- An index can come about by a row of calls. -/
theorem Reachable.after {index : MemoryIndex} (reachable : index.Reachable)
    (writes : List IndexWrite) : (writer.after writes index).Reachable := by
  induction writes generalizing index with
  | nil => exact reachable
  | cons write rest ih => exact ih (reachable.perform write)

/-! ### What a reference finds -/

/-- The first visible record, by id, that answers to a reference. -/
def first? (index : MemoryIndex) (reference : String) : Option Record :=
  index.visible.values.find? fun record => record.answersTo reference

/-- A reference is the id of a visible record, and the name of one with an earlier id. -/
def Contested (index : MemoryIndex) (reference : String) : Prop :=
  index.visible.contains reference = true ∧ ∃ id record, index.visible.get? id = some record ∧
    id < reference ∧ record.name? = some reference

/-- The first record that answers is an entry with the least id. -/
theorem first?_eq_some_iff {index : MemoryIndex} {reference : String} {record : Record} :
    index.first? reference = some record ↔
      ∃ id, index.visible.get? id = some record ∧ record.answersTo reference = true ∧
        ∀ other rival, index.visible.get? other = some rival → rival.answersTo reference = true →
          id ≤ other := by
  unfold first? SortedMap.values
  rw [List.find?_map, Option.map_eq_some_iff]
  simp only [SortedMap.find?_entries_eq_some_iff, SortedMap.get?_eq_some_iff, Prod.exists,
    Prod.forall, Function.comp_apply]
  constructor
  · rintro ⟨id, found, ⟨member, answers, least⟩, rfl⟩
    exact ⟨id, member, answers, least⟩
  · rintro ⟨id, member, answers, least⟩
    exact ⟨id, record, ⟨member, answers, least⟩, rfl⟩

/-- **An index in memory finds the first record that answers, just if the reference is not
contested.** -/
theorem first?_eq_find?_iff {index : MemoryIndex}
    (ids : index.visible.Each fun id record => record.id? = some id) (reference : String) :
    index.first? reference = index.find? reference ↔ ¬ index.Contested reference := by
  unfold find?
  cases held : index.visible.get? reference with
  | none =>
    refine ⟨fun _ contested => ?_, fun _ => (Option.none_or).symm⟩
    have contained := contested.1
    unfold SortedMap.contains at contained
    rw [held] at contained
    cases contained
  | some holder =>
    have same : holder.id? = some reference := ids.of_get? held
    rw [Option.some_or, first?_eq_some_iff]
    constructor
    · rintro ⟨id, found, -, least⟩ ⟨-, earlier, named, known, less, name⟩
      have own : holder.id? = some id := ids.of_get? found
      obtain rfl : id = reference := Option.some.inj (own.symm.trans same)
      exact absurd (least earlier named known (Record.answersTo_iff.mpr (.inr name))) less.not_ge
    · intro free
      refine ⟨reference, held, Record.answersTo_iff.mpr (.inl same),
        fun other rival known rivals => ?_⟩
      refine le_of_not_gt fun earlier => free ⟨?_, other, rival, known, earlier, ?_⟩
      · unfold SortedMap.contains
        rw [held]
        rfl
      · have own : rival.id? = some other := ids.of_get? known
        refine (Record.answersTo_iff.mp rivals).resolve_left fun same' => ?_
        exact earlier.ne (Option.some.inj (own.symm.trans same'))

/-! ### Which record is found -/

section Keyed

variable {index : MemoryIndex} (keyed : index.Keyed) {reference : String}
include keyed

/-- What is visible under an id answers to it. -/
theorem Keyed.answersTo_of_get? {record : Record}
    (held : index.visible.get? reference = some record) : record.answersTo reference = true :=
  Record.answersTo_iff.mpr (.inl (keyed.visible.of_get? held))

/-- What a reference finds answers to it. -/
theorem Keyed.answersTo_of_find? {record : Record} (found : index.find? reference = some record) :
    record.answersTo reference = true := by
  unfold find? at found
  cases held : index.visible.get? reference with
  | none =>
    rw [held, Option.none_or] at found
    have answers := List.find?_some found
    exact answers
  | some holder =>
    rw [held, Option.some_or, Option.some.injEq] at found
    exact found ▸ keyed.answersTo_of_get? held

/-- **A reference finds nothing just if no visible record answers to it.** -/
theorem Keyed.find?_eq_none_iff :
    index.find? reference = none ↔
      index.visible.Each fun _ record => record.answersTo reference = false := by
  unfold find?
  rw [Option.or_eq_none_iff, List.find?_eq_none]
  constructor
  · rintro ⟨-, nobody⟩ entry member
    exact Bool.eq_false_of_not_eq_true (nobody entry.2 (List.mem_map_of_mem member))
  · intro nobody
    constructor
    · refine Option.eq_none_iff_forall_ne_some.mpr fun record held => ?_
      have answers := keyed.answersTo_of_get? held
      rw [nobody.of_get? held] at answers
      cases answers
    · intro record member answers
      obtain ⟨entry, inside, rfl⟩ := List.mem_map.mp member
      rw [nobody entry inside] at answers
      cases answers

/-- **A reference finds a visible record that answers to it, just if it is the id of that record or
if no visible record has it as its id, nor one with an earlier id as its name.** -/
theorem Keyed.find?_eq_some_iff {id : String} {record : Record}
    (held : index.visible.get? id = some record) (answers : record.answersTo reference = true) :
    index.find? reference = some record ↔
      id = reference ∨ ∀ other rival, index.visible.get? other = some rival →
        other ≠ reference ∧ (rival.name? = some reference → id ≤ other) := by
  have own : record.id? = some id := keyed.visible.of_get? held
  by_cases here : id = reference
  · refine iff_of_true ?_ (.inl here)
    unfold find?
    rw [← here, held, Option.some_or]
  rw [or_iff_right here]
  cases taken : index.visible.get? reference with
  | some holder =>
    have theirs : holder.id? = some reference := keyed.visible.of_get? taken
    refine iff_of_false (fun found => here ?_) fun free => (free _ holder taken).1 rfl
    unfold find? at found
    rw [taken, Option.some_or, Option.some.injEq] at found
    exact Option.some.inj (own.symm.trans (found ▸ theirs))
  | none =>
    have first : index.find? reference = index.first? reference := by
      unfold find? first?
      rw [taken, Option.none_or]
    rw [first, first?_eq_some_iff]
    constructor
    · rintro ⟨key, same, -, least⟩ other rival known
      obtain rfl : key = id := Option.some.inj
        ((keyed.visible.of_get? same).symm.trans own)
      refine ⟨fun equal => ?_, fun called => least other rival known ?_⟩
      · rw [equal, taken] at known
        cases known
      · exact Record.answersTo_iff.mpr (.inr called)
    · intro free
      refine ⟨id, held, answers, fun other rival known rivals => ?_⟩
      obtain ⟨apart, later⟩ := free other rival known
      have theirs : rival.id? = some other := keyed.visible.of_get? known
      refine later ((Record.answersTo_iff.mp rivals).resolve_left fun same => apart ?_)
      exact Option.some.inj (theirs.symm.trans same)

end Keyed

/-! ### References without a document -/

/-- In neither layer there is a document that answers to the reference. -/
structure Lacks (index : MemoryIndex) (reference : String) : Prop where
  visible : index.visible.Each fun _ record => record.answersTo reference = false
  pending : index.pending.Each fun _ record => record.answersTo reference = false

/-- A removal leaves nothing that answers to its reference. -/
theorem lacks_without (index : MemoryIndex) (reference : String) :
    (index.without reference).Lacks reference :=
  ⟨fun _ member => Bool.not_eq_true' _ |>.mp (List.mem_filter.mp member).2,
    fun _ member => Bool.not_eq_true' _ |>.mp (List.mem_filter.mp member).2⟩

namespace Lacks

variable {index : MemoryIndex} {reference : String} (lacks : index.Lacks reference)
include lacks

theorem settled : index.settled.Each fun _ record => record.answersTo reference = false :=
  lacks.visible.overlay lacks.pending

theorem find?_eq_none (keyed : index.Keyed) : index.find? reference = none :=
  keyed.find?_eq_none_iff.mpr lacks.visible

end Lacks

end CatalogSync.MemoryIndex
