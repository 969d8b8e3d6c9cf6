/-
**Repairing one record, whatever the index held before.**

* **`rebuild_one_exact`** — what a rebuild of one record yields and what it leaves behind: if the
  record cannot be fetched, if the index refuses it, and otherwise. Its options have no part in it.
* `find?_repaired` — which document a reference to the record finds afterwards. It is the record,
  unless another document forestalls it (`Forestalls`).
* **`rebuild_one_round_trip`** — so it is after every rebuild of one record that comes to its end,
  and once the reference is cleared it finds nothing, whatever is committed afterwards.
* `rebuild_one_finds_forestaller` — a name that is rebuilt need not find the record.
-/

import CatalogSync.Proofs.Bulk.Single
import CatalogSync.Proofs.Index.Lookup
import CatalogSync.Proofs.Index.Timing
import CatalogSync.Proofs.Store.Resolution
import Mathlib.Logic.Function.Iterate

namespace CatalogSync

namespace MemoryIndex

/-! ### What hides a record from a reference -/

/-- A document, visible or pending, has the reference as its id, or has it as its name and an id
before the given one. -/
def Forestalls (index : MemoryIndex) (reference id : String) : Prop :=
  ∃ other document, index.settled.get? other = some document ∧
    (other = reference ∨ document.name? = some reference ∧ other < id)

/-- What is left of the documents after a removal has neither the id nor its name. -/
theorem not_forestalls_own {index : MemoryIndex} (keyed : index.Keyed) (id : String) :
    ¬ (index.without id).Forestalls id id := by
  rintro ⟨other, document, held, hides⟩
  have own : document.id? = some other := (keyed.without id).settled.of_get? held
  have silent : document.answersTo id = false := (lacks_without index id).settled.of_get? held
  have answers : document.answersTo id = true := by
    rw [Record.answersTo_iff, own, Option.some.injEq]
    exact hides.imp_right And.left
  rw [answers] at silent
  cases silent

section Repaired

variable {index repaired : MemoryIndex} (keyed : index.Keyed) (keyed' : repaired.Keyed)
  {id reference : String} {record : Record}
  (shows : repaired.visible = (index.without id).settled.insert id record)
include shows

theorem get?_visible_repaired : repaired.visible.get? id = some record := by
  rw [shows, SortedMap.get?_insert, if_pos rfl]

include keyed

/-- What is left stays visible beside the record. -/
theorem get?_visible_of_left {other : String} {document : Record}
    (left : (index.without id).settled.get? other = some document) :
    repaired.visible.get? other = some document := by
  have apart : id ≠ other := by
    rintro rfl
    exact not_forestalls_own keyed id ⟨id, document, left, .inl rfl⟩
  rw [shows, SortedMap.get?_insert, if_neg apart, left]

include keyed'

/-- **After a record took the place of the documents that answer to its id, a reference to it finds
it, just if no other document forestalls it.** -/
theorem find?_repaired_iff (answers : record.answersTo reference = true) :
    repaired.find? reference = some record ↔ ¬ (index.without id).Forestalls reference id := by
  rw [keyed'.find?_eq_some_iff (get?_visible_repaired shows) answers]
  constructor
  · rintro (rfl | free)
    · exact not_forestalls_own keyed id
    · rintro ⟨other, document, left, hides⟩
      obtain ⟨apart, later⟩ := free other document (get?_visible_of_left keyed shows left)
      rcases hides with same | ⟨called, earlier⟩
      · exact apart same
      · exact earlier.not_ge (later called)
  · intro free
    by_cases here : id = reference
    · exact .inl here
    refine .inr fun other rival known => ?_
    rw [shows, SortedMap.get?_insert] at known
    by_cases own : id = other
    · exact ⟨own ▸ here, fun _ => own.le⟩
    · rw [if_neg own] at known
      refine ⟨fun same => free ⟨other, rival, known, .inl same⟩, fun called => ?_⟩
      exact le_of_not_gt fun earlier => free ⟨other, rival, known, .inr ⟨called, earlier⟩⟩

/-- A reference to the record finds a document that answers to it in any case. -/
theorem find?_repaired (answers : record.answersTo reference = true) :
    ∃ shown, repaired.find? reference = some shown ∧ shown.answersTo reference = true ∧
      (shown = record ↔ ¬ (index.without id).Forestalls reference id) := by
  cases found : repaired.find? reference with
  | none =>
    have silent := (keyed'.find?_eq_none_iff.mp found).of_get? (get?_visible_repaired shows)
    rw [answers] at silent
    cases silent
  | some shown =>
    refine ⟨shown, rfl, keyed'.answersTo_of_find? found, ?_⟩
    rw [← find?_repaired_iff keyed keyed' shows answers, found, Option.some.injEq]

/-- The id of the record finds it. -/
theorem find?_own (known : record.id? = some id) : repaired.find? id = some record :=
  (find?_repaired_iff keyed keyed' shows (Record.answersTo_iff.mpr (.inl known))).mpr
    (not_forestalls_own keyed id)

end Repaired

/-! ### The index after a replacement -/

section Replacement

variable {index : MemoryIndex} {record : Record} {id : String} (known : record.id? = some id)
include known

/-- A record that is refused leaves a gap. -/
theorem written_of_refused (refused : id ∈ index.refused) :
    (((index.noted (.remove id)).without id).noted (.insert id)).written record true =
      { index.without id with calls := index.calls ++ [.remove id, .insert id] } := by
  have stays : (((index.noted (.remove id)).without id).noted (.insert id)).accept record =
      .error (refusal id) := accept_of_refused known refused
  rw [written_of_error stays]
  show MemoryIndex.mk _ _ _ _ = _
  rw [MemoryIndex.mk.injEq]
  exact ⟨rfl, rfl, rfl, List.append_assoc index.calls _ _⟩

/-- A record that is kept is shown with everything else that is left. -/
theorem written_of_admitted (admitted : id ∉ index.refused) :
    (((index.noted (.remove id)).without id).noted (.insert id)).written record true =
      { visible := (index.without id).settled.insert id record
        pending := .empty
        refused := index.refused
        calls := index.calls ++ [.remove id, .insert id] } := by
  have joins : (((index.noted (.remove id)).without id).noted (.insert id)).accept record =
      .ok id := accept_of_admitted known admitted
  rw [written_of_ok joins, if_pos rfl, MemoryIndex.mk.injEq]
  exact ⟨settled_holding (index.without id) id record, rfl, rfl,
    List.append_assoc index.calls _ _⟩

end Replacement

end MemoryIndex

namespace Workbench

/-! ### The effect of a rebuild of one record -/

section Effect

variable {entityType : EntityType} {bench : Workbench} {reference : String}
  (options : RebuildOptions)

/-- A record that cannot be fetched leaves everything as it is. -/
theorem effect_rebuild_one_of_missing {failure : SearchError}
    (missing : bench.store.fetch? entityType reference = .error failure) :
    ((engine entityType).rebuild (.one reference) options).effect bench =
      (.error failure, { bench with fetched := bench.fetched ++ [reference] }) := by
  have brought : bench.document entityType reference = .error failure :=
    document_eq_error_iff.mpr (.inl missing)
  rw [effect_rebuild_one, brought]
  simp only [replaced, missing]
  rfl

variable {record : Record} {id : String}
  (fetched : bench.store.fetch? entityType reference = .ok record)
  (known : record.id? = some id)
include fetched known

/-- A record that the index refuses is gone from it, and nothing is ended. -/
theorem effect_rebuild_one_of_refused (refused : id ∈ bench.index.refused) :
    ((engine entityType).rebuild (.one reference) options).effect bench =
      (.error (MemoryIndex.refusal id),
        { index := { bench.index.without id with
            calls := bench.index.calls ++ [.remove id, .insert id] }
          store := bench.store
          fetched := bench.fetched ++ [reference] }) := by
  have brought : bench.document entityType reference = .error (MemoryIndex.refusal id) :=
    document_eq_error_iff.mpr
      (.inr ⟨record, fetched, MemoryIndex.accept_of_refused known refused⟩)
  rw [effect_rebuild_one, brought]
  simp only [replaced, fetched, known, MemoryIndex.written_of_refused known refused]
  rfl

/-- A record that the index keeps is shown with all that is left, and the session is ended. -/
theorem effect_rebuild_one_of_admitted (admitted : id ∉ bench.index.refused) :
    ((engine entityType).rebuild (.one reference) options).effect bench =
      (.ok single,
        { index :=
            { visible := (bench.index.without id).settled.insert id record
              pending := .empty
              refused := bench.index.refused
              calls := bench.index.calls ++ [.remove id, .insert id] }
          store := { bench.store with commits := bench.store.commits + 1 }
          fetched := bench.fetched ++ [reference] }) := by
  have brought : bench.document entityType reference = .ok (id, record) :=
    document_eq_ok_iff.mpr ⟨fetched, MemoryIndex.accept_of_admitted known admitted⟩
  rw [effect_rebuild_one, brought]
  simp only [replaced, fetched, known, MemoryIndex.written_of_admitted known admitted]
  rfl

end Effect

/-- **What a rebuild of one record does, whatever its options.** If the record cannot be fetched it
fails in the same way and changes nothing. If the index refuses the record, then what answers to its
id is gone from both layers, and no more has happened. Otherwise the record is put over what is left
of them, nothing is pending, and the session of the store is ended. -/
theorem rebuild_one_exact (entityType : EntityType) (bench : Workbench) (reference : String)
    (options : RebuildOptions) :
    let outcome := ((engine entityType).rebuild (.one reference) options).effect bench
    (∀ others : RebuildOptions, (engine entityType).rebuild (.one reference) others =
      (engine entityType).rebuild (.one reference) options) ∧
    (∀ failure, bench.store.fetch? entityType reference = .error failure →
      outcome = (.error failure, { bench with fetched := bench.fetched ++ [reference] })) ∧
    ∀ record, bench.store.fetch? entityType reference = .ok record →
      (bench.store.Reachable → ∃ id, record.id? = some id) ∧
      ∀ id, record.id? = some id →
        let remaining := bench.index.without id
        let calls := bench.index.calls ++ [.remove id, .insert id]
        (id ∈ bench.index.refused →
          outcome = (.error (MemoryIndex.refusal id),
            { index := ⟨remaining.visible, remaining.pending, bench.index.refused, calls⟩
              store := bench.store
              fetched := bench.fetched ++ [reference] })) ∧
        (id ∉ bench.index.refused →
          outcome = (.ok ⟨1, 1, [], .completed⟩,
            { index := ⟨(remaining.visible.overlay remaining.pending).insert id record, .empty,
                bench.index.refused, calls⟩
              store := { bench.store with commits := bench.store.commits + 1 }
              fetched := bench.fetched ++ [reference] })) := by
  intro outcome
  refine ⟨fun _ => rfl, fun failure missing => effect_rebuild_one_of_missing options missing,
    fun record fetched => ⟨fun reachable => reachable.sound.id?_of_fetch? fetched,
      fun id known => ⟨fun refused => ?_, fun admitted => ?_⟩⟩⟩
  · exact effect_rebuild_one_of_refused options fetched known refused
  · exact effect_rebuild_one_of_admitted options fetched known admitted

/-- Of four datasets one cannot be fetched, one is refused, and one is shown together with the
document that was pending. -/
theorem rebuild_one_exact_of_troubled :
    let outcome := fun reference options =>
      ((engine .package).rebuild (.one reference) options).effect troubled
    let forced : RebuildOptions := ⟨true, true, true, true, true⟩
    (outcome "c" forced).1 = .error (.store "Injected fetch failure for c") ∧
      (outcome "c" forced).2.index = troubled.index ∧
      (outcome "b" forced).1 = .error (.indexWrite "Injected write failure for b") ∧
      (outcome "b" forced).2.index.pending.keys = ["z"] ∧
      (outcome "a" forced).1 = .ok ⟨1, 1, [], .completed⟩ ∧
      (outcome "a" forced).2.index.visible.keys = ["a", "z"] ∧
      (outcome "a" forced).2.store.commits = 1 := by
  intro outcome forced
  obtain ⟨-, missing, -⟩ := rebuild_one_exact .package troubled "c" forced
  obtain ⟨-, -, refused⟩ := rebuild_one_exact .package troubled "b" forced
  obtain ⟨-, -, admitted⟩ := rebuild_one_exact .package troubled "a" forced
  have lost : outcome "c" forced = _ := missing _ rfl
  have kept : outcome "b" forced = _ := ((refused _ rfl).2 "b" rfl).1 (by decide)
  have shown : outcome "a" forced = _ := ((admitted _ rfl).2 "a" rfl).2 (by decide)
  rw [lost, kept, shown]
  exact ⟨rfl, rfl, rfl, by decide, rfl, by decide, rfl⟩

/-! ### Looking at a record that was rebuilt -/

section Looking

variable (entityType : EntityType) (reference : String)

theorem effect_find (bench : Workbench) :
    ((engine entityType).find reference).effect bench =
      (.ok (bench.index.find? reference), bench) := rfl

theorem effect_clear (bench : Workbench) :
    ((engine entityType).clear reference).effect bench =
      (.ok (), { bench with
        index := (bench.index.noted (.remove reference)).without reference }) :=
  (Action.effect_bind_of_ok (effect_remove (Record.id?_idOnly reference) bench) _).trans rfl

variable {reference}

/-- What nothing answers to finds nothing, whatever is committed. -/
theorem find?_after_commits {bench : Workbench} (keyed : bench.index.Keyed)
    (lacks : bench.index.Lacks reference) (count : Nat) :
    ((fun state => ((engine entityType).commit.effect state).2)^[count] bench).index.find?
      reference = none := by
  induction count generalizing bench with
  | zero => exact lacks.find?_eq_none keyed
  | succ count ih =>
    rw [Function.iterate_succ_apply]
    exact ih (keyed.noted .commit).committed ⟨lacks.settled, .empty⟩

end Looking

/-- **A record that was rebuilt is found by its id, and by another reference to it just if no other
document forestalls it.** Then another one that answers to the reference is found. Once the
reference is cleared it finds nothing, whatever is committed afterwards. -/
theorem rebuild_one_round_trip {entityType : EntityType} {bench reached : Workbench}
    {reference : String} {options : RebuildOptions} {summary : RebuildSummary}
    (reachable : bench.index.Reachable)
    (rebuilt : ((engine entityType).rebuild (.one reference) options).effect bench =
      (.ok summary, reached)) :
    ∃ record id, bench.store.fetch? entityType reference = .ok record ∧ record.id? = some id ∧
      ((engine entityType).find id).effect reached = (.ok (some record), reached) ∧
      (∃ shown, ((engine entityType).find reference).effect reached = (.ok (some shown), reached) ∧
        shown.answersTo reference = true ∧
        (shown = record ↔ ¬ (bench.index.without id).Forestalls reference id)) ∧
      ∃ cleared, ((engine entityType).clear reference).effect reached = (.ok (), cleared) ∧
        ∀ count, (((engine entityType).find reference).effect
          ((fun state => ((engine entityType).commit.effect state).2)^[count] cleared)).1 =
            .ok none := by
  cases brought : bench.document entityType reference with
  | error failure =>
    rw [effect_rebuild_one, brought] at rebuilt
    cases rebuilt
  | ok entry =>
    obtain ⟨id, record⟩ := entry
    obtain ⟨fetched, kept⟩ := document_eq_ok_iff.mp brought
    have known : record.id? = some id := MemoryIndex.id?_of_accept kept
    rw [effect_rebuild_one_of_admitted options fetched known
      (MemoryIndex.admitted_of_accept kept)] at rebuilt
    obtain rfl := congrArg Prod.snd rebuilt
    have keyed := reachable.keyed
    have keyed' : MemoryIndex.Keyed ⟨(bench.index.without id).settled.insert id record, .empty,
        bench.index.refused, bench.index.calls ++ [.remove id, .insert id]⟩ :=
      ⟨(keyed.without id).settled.insert known, .empty⟩
    obtain ⟨shown, found, answers, own⟩ := MemoryIndex.find?_repaired keyed keyed' rfl
      (MemoryStore.answersTo_of_fetch? fetched known)
    refine ⟨record, id, fetched, known, ?_, ⟨shown, ?_, answers, own⟩, _, effect_clear _ _ _,
      fun count => ?_⟩
    · rw [effect_find, MemoryIndex.find?_own keyed keyed' rfl known]
    · rw [effect_find, found]
    · rw [effect_find, find?_after_commits entityType ((keyed'.noted _).without reference)
        (MemoryIndex.lacks_without _ reference)]

/-- The store holds a dataset that the index does not know. The index shows another one with the
same name, and a third one with that name is pending. -/
def outdated : Workbench where
  index := MemoryIndex.writer.after
    [.insert (MemoryIndex.called "a" "x"), .update (MemoryIndex.called "c" "x") true] .empty
  store := MemoryStore.empty.put .package (MemoryIndex.called "b" "x") .active none
  fetched := []

theorem reachable_outdated : outdated.index.Reachable ∧ outdated.store.Reachable :=
  ⟨.after .empty _, .put .package (MemoryIndex.called "b" "x") .active none .empty⟩

/-- The name of the dataset is forestalled by a document with an earlier id. -/
theorem forestalls_outdated : (outdated.index.without "b").Forestalls "x" "b" :=
  ⟨"a", MemoryIndex.called "a" "x", rfl, .inr ⟨rfl, by decide⟩⟩

/-- Rebuilt by its name, the dataset is found by its id and not by its name, and after the name is
cleared and the index committed nothing is found by it. -/
theorem rebuild_one_round_trip_of_outdated :
    outdated.index.Reachable ∧
      ∃ (reached cleared : Workbench) (record other : Record),
        ((engine .package).rebuild (.one "x") default).effect outdated = (.ok single, reached) ∧
        outdated.store.fetch? .package "x" = .ok record ∧
        ((engine .package).find "b").effect reached = (.ok (some record), reached) ∧
        ((engine .package).find "x").effect reached = (.ok (some other), reached) ∧
        other ≠ record ∧
        ((engine .package).clear "x").effect reached = (.ok (), cleared) ∧
        (((engine .package).find "x").effect ((engine .package).commit.effect cleared).2).1 =
          .ok none := by
  have rebuilt : ((engine .package).rebuild (.one "x") default).effect outdated =
      (.ok single, (outdated.replaced .package "x").ended) := effect_rebuild_one _ _ _ _
  obtain ⟨record, id, fetched, known, own, ⟨other, named, -, same⟩, cleared, ran, absent⟩ :=
    rebuild_one_round_trip reachable_outdated.1 rebuilt
  obtain rfl : MemoryIndex.called "b" "x" = record := Except.ok.inj fetched
  obtain rfl : "b" = id := Option.some.inj known
  exact ⟨reachable_outdated.1, _, cleared, _, other, rebuilt, fetched, own, named,
    fun equal => same.mp equal forestalls_outdated, ran, absent 1⟩

/-- So it does not hold of every reference to a record that was rebuilt that it finds the record. -/
theorem rebuild_one_finds_forestaller :
    ¬ ∀ (entityType : EntityType) (bench reached : Workbench) (reference : String)
        (options : RebuildOptions) (summary : RebuildSummary) (record : Record),
      bench.store.Reachable → bench.index.Reachable →
        ((engine entityType).rebuild (.one reference) options).effect bench =
          (.ok summary, reached) →
        bench.store.fetch? entityType reference = .ok record →
          (((engine entityType).find reference).effect reached).1 = .ok (some record) := by
  intro law
  have found := law .package outdated _ "x" default single (MemoryIndex.called "b" "x")
    reachable_outdated.2 reachable_outdated.1 (effect_rebuild_one _ _ _ _) rfl
  have shown := congrArg (Option.bind · Record.id?) (Except.ok.inj found)
  exact absurd shown (by decide)

end Workbench

end CatalogSync
