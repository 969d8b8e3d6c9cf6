/-
**An index in memory as its documents.**

* `documents` — what readers see. `Keyed.keys_eq` and `Keyed.get?_iff` — the keys of the visible
  layer are the ids of these documents, and a document is found under its id and under no other key.
* `IsFor` — the document that a reference is for: the one with that id, or, if there is none, the
  one with the least id among those with that name. `Keyed.find?_iff` — it is the one that is found.
* `layers_perform_of_error`, `get?_of_remove` — a call that fails leaves both layers as they are,
  and a removal adds nothing to them. This is so in every index.
* **`Reachable.reads_documents`** — so in every index that can come about all readings are readings
  of the documents.
-/

import CatalogSync.Proofs.Index.Lookup
import CatalogSync.Proofs.Index.Timing

namespace CatalogSync.MemoryIndex

/-! ### Documents and their keys -/

/-- The documents that readers see. -/
def documents (index : MemoryIndex) : List Record := index.visible.values

/-- The document that a reference is for: the one with that id, or, if there is none, the one with
the least id among those with that name. -/
def IsFor (index : MemoryIndex) (reference : String) (record : Record) : Prop :=
  record ∈ index.documents ∧
    (record.id? = some reference ∨
      (∀ other ∈ index.documents, other.id? ≠ some reference) ∧
        record.name? = some reference ∧
        ∃ id, record.id? = some id ∧ ∀ rival ∈ index.documents, rival.name? = some reference →
          ∀ other, rival.id? = some other → id ≤ other)

theorem mem_documents_iff {index : MemoryIndex} {record : Record} :
    record ∈ index.documents ↔ ∃ id, index.visible.get? id = some record := by
  unfold documents SortedMap.values
  simp only [List.mem_map, Prod.exists, exists_eq_right, SortedMap.get?_eq_some_iff]

/-- What is found is one of the documents. -/
theorem mem_documents_of_find? {index : MemoryIndex} {reference : String} {record : Record}
    (found : index.find? reference = some record) : record ∈ index.documents := by
  unfold find? at found
  rcases Option.or_eq_some_iff.mp found with held | ⟨-, held⟩
  · exact mem_documents_iff.mpr ⟨reference, held⟩
  · exact List.mem_of_find?_eq_some held

section Keyed

variable {index : MemoryIndex} (keyed : index.Keyed)
include keyed

/-- The keys of the visible layer are the ids of its documents. -/
theorem Keyed.keys_eq : index.visible.keys = index.documents.filterMap Record.id? := by
  have own : ∀ entry ∈ index.visible.entries, entry.2.id? = some entry.1 := keyed.visible
  unfold SortedMap.keys documents SortedMap.values
  rw [List.filterMap_map, ← List.filterMap_eq_map]
  exact List.filterMap_congr fun entry member => (own entry member).symm

/-- A document is found under its id and under no other key. -/
theorem Keyed.get?_iff {id : String} {record : Record} :
    index.visible.get? id = some record ↔ record ∈ index.documents ∧ record.id? = some id := by
  constructor
  · intro held
    exact ⟨mem_documents_iff.mpr ⟨id, held⟩, keyed.visible.of_get? held⟩
  · rintro ⟨member, known⟩
    -- the document stands under some key, and this key is its id
    obtain ⟨key, held⟩ := mem_documents_iff.mp member
    have own : record.id? = some key := keyed.visible.of_get? held
    obtain rfl : key = id := Option.some.inj (own.symm.trans known)
    exact held

/-- **A reference finds the document that it is for.** -/
theorem Keyed.find?_iff {reference : String} {record : Record} :
    index.find? reference = some record ↔ index.IsFor reference record := by
  constructor
  · intro found
    have answers := keyed.answersTo_of_find? found
    obtain ⟨id, held⟩ := mem_documents_iff.mp (mem_documents_of_find? found)
    obtain ⟨member, known⟩ := keyed.get?_iff.mp held
    refine ⟨member, ?_⟩
    rcases (keyed.find?_eq_some_iff held answers).mp found with rfl | free
    · exact .inl known
    · rcases Record.answersTo_iff.mp answers with own | named
      · exact .inl own
      · refine .inr ⟨fun other shown same => ?_, named, id, known,
          fun rival shown called other theirs => ?_⟩
        · exact (free reference other (keyed.get?_iff.mpr ⟨shown, same⟩)).1 rfl
        · exact (free other rival (keyed.get?_iff.mpr ⟨shown, theirs⟩)).2 called
  · rintro ⟨member, own | ⟨unheld, named, id, known, least⟩⟩
    · have held := keyed.get?_iff.mpr ⟨member, own⟩
      exact (keyed.find?_eq_some_iff held (Record.answersTo_iff.mpr (.inl own))).mpr (.inl rfl)
    · have held := keyed.get?_iff.mpr ⟨member, known⟩
      refine (keyed.find?_eq_some_iff held (Record.answersTo_iff.mpr (.inr named))).mpr
        (.inr fun other rival theirs => ?_)
      obtain ⟨shown, same⟩ := keyed.get?_iff.mp theirs
      refine ⟨fun equal => unheld rival shown (equal ▸ same), fun called => ?_⟩
      exact least rival shown called other same

/-- A reference finds nothing just if no document has it as its id or as its name. -/
theorem Keyed.find?_none_iff {reference : String} :
    index.find? reference = none ↔ ∀ record ∈ index.documents,
      record.id? ≠ some reference ∧ record.name? ≠ some reference := by
  rw [keyed.find?_eq_none_iff]
  constructor
  · intro nobody record member
    obtain ⟨id, held⟩ := mem_documents_iff.mp member
    have silent : ¬ record.answersTo reference = true := ne_true_of_eq_false (nobody.of_get? held)
    exact not_or.mp fun either => silent (Record.answersTo_iff.mpr either)
  · rintro nobody ⟨id, record⟩ member
    have shown : record ∈ index.documents := List.mem_map_of_mem member
    refine Bool.eq_false_of_not_eq_true fun answers => ?_
    exact not_or.mpr (nobody record shown) (Record.answersTo_iff.mp answers)

end Keyed

/-! ### Calls that fail -/

/-- A write that is refused leaves nothing but the note of the call. -/
theorem written_of_refusal {index : MemoryIndex} {record : Record} {failure : SearchError}
    (failed : (index.accept record).map (fun _ => ()) = .error failure) (call : IndexCall)
    (commit : Bool) : (index.noted call).written record commit = index.noted call := by
  cases accepted : index.accept record with
  | error problem =>
    have refused : (index.noted call).accept record = .error problem := accepted
    exact written_of_error refused commit
  | ok id =>
    rw [accepted] at failed
    cases failed

/-- **A call that fails leaves both layers as they are.** -/
theorem layers_perform_of_error {index : MemoryIndex} {write : IndexWrite} {failure : SearchError}
    (failed : ((write.perform writer).effect index).1 = .error failure) :
    ((write.perform writer).effect index).2.visible = index.visible ∧
      ((write.perform writer).effect index).2.pending = index.pending := by
  cases write with
  | insert record =>
    rw [IndexWrite.perform, effect_insert] at failed ⊢
    rw [written_of_refusal failed]
    exact ⟨rfl, rfl⟩
  | update record deferCommit =>
    rw [IndexWrite.perform, effect_update] at failed ⊢
    rw [written_of_refusal failed]
    exact ⟨rfl, rfl⟩
  | remove record =>
    cases known : record.id? with
    | none =>
      rw [IndexWrite.perform, effect_remove_of_nameless known]
      exact ⟨rfl, rfl⟩
    | some id =>
      rw [IndexWrite.perform, effect_remove known] at failed
      cases failed
  | clear => cases failed
  | commit => cases failed

/-! ### Removals -/

/-- After a removal an index in memory holds nothing that it did not hold before. -/
theorem get?_of_remove (record : Record) (index : MemoryIndex) (id : String)
    (document : Record) :
    (((writer.remove record).effect index).2.visible.get? id = some document →
        index.visible.get? id = some document) ∧
      (((writer.remove record).effect index).2.pending.get? id = some document →
        index.pending.get? id = some document) := by
  cases known : record.id? with
  | none =>
    rw [effect_remove_of_nameless known]
    exact ⟨fun held => held, fun held => held⟩
  | some reference =>
    rw [effect_remove known]
    exact ⟨SortedMap.get?_of_filter, SortedMap.get?_of_filter⟩

/-! ### The main statement -/

/-- **In every index that can come about both layers hold their documents under the ids of these,
and all readings are readings of the visible ones.** Their ids are listed from the least on, up to
the limit, and a reference finds the document that it is for. A call that fails leaves both layers
as they are. -/
theorem Reachable.reads_documents {index : MemoryIndex} (reachable : index.Reachable) :
    (∀ id record, index.visible.get? id = some record → record.id? = some id) ∧
      (∀ id record, index.pending.get? id = some record → record.id? = some id) ∧
      (∃ ids, ids = index.documents.filterMap Record.id? ∧
        ids.length = index.documents.length ∧ ids.Pairwise (· < ·) ∧ ids.Nodup ∧
        (reader.ids none).effect index = (.ok ids, index) ∧
        ∀ limit, (reader.ids (some limit)).effect index = (.ok (ids.take limit), index)) ∧
      (∀ reference, ∃ found, (reader.find reference).effect index = (.ok found, index) ∧
        (∀ record, found = some record ↔ index.IsFor reference record) ∧
        (found = none ↔ ∀ record ∈ index.documents,
          record.id? ≠ some reference ∧ record.name? ≠ some reference)) ∧
      ∀ (write : IndexWrite) (failure : SearchError),
        ((write.perform writer).effect index).1 = .error failure →
        ((write.perform writer).effect index).2.visible = index.visible ∧
          ((write.perform writer).effect index).2.pending = index.pending := by
  have keyed := reachable.keyed
  have ordered : index.visible.keys.Pairwise (· < ·) := index.visible.keys_ordered
  refine ⟨fun _ _ => keyed.visible.of_get?, fun _ _ => keyed.pending.of_get?,
    ⟨index.visible.keys, keyed.keys_eq, index.visible.length_keys, ordered, ordered.imp ne_of_lt,
      rfl, fun _ => rfl⟩,
    fun reference => ⟨index.find? reference, rfl, fun _ => keyed.find?_iff, keyed.find?_none_iff⟩,
    fun _ _ => layers_perform_of_error⟩

/-- One dataset was refused, another one is held back, and of the four that are shown the last has
for its id the name of the first, and for its name that of the two in between. -/
def crossed : MemoryIndex :=
  writer.after [.update (called "c" "m") false, .insert (called "x" "m"), .insert (called "e" "n"),
    .commit, .insert (called "d" "n"), .insert .empty, .insert (called "m" "n"),
    .update (called "b" "k") true] (empty.refuse "x")

theorem documents_crossed :
    crossed.documents = [called "c" "m", called "d" "n", called "e" "n", called "m" "n"] := rfl

/-- In it an id comes before a name, and of three with one name the one with the least id is found.
What was refused or is held back is not found, and a further refusal changes nothing. -/
theorem reads_documents_of_crossed :
    crossed.Reachable ∧
      (reader.ids (some 2)).effect crossed = (.ok ["c", "d"], crossed) ∧
      (reader.find "m").effect crossed = (.ok (some (called "m" "n")), crossed) ∧
      (reader.find "n").effect crossed = (.ok (some (called "d" "n")), crossed) ∧
      (reader.find "k").effect crossed = (.ok none, crossed) ∧
      ((writer.insert (called "x" "k")).effect crossed).1 = .error (refusal "x") ∧
      ((writer.insert (called "x" "k")).effect crossed).2.visible = crossed.visible ∧
      ((writer.insert (called "x" "k")).effect crossed).2.pending = crossed.pending := by
  have reachable : crossed.Reachable := .after (.refuse "x" .empty) _
  obtain ⟨-, -, ⟨ids, listed, -, -, -, -, limited⟩, finds, fails⟩ := reachable.reads_documents
  obtain ⟨owner, found, owners, -⟩ := finds "m"
  obtain ⟨namesake, found', namesakes, -⟩ := finds "n"
  obtain ⟨nobody, missed, -, nobodies⟩ := finds "k"
  simp only [IsFor, documents_crossed] at listed owners namesakes nobodies
  obtain rfl : owner = some (called "m" "n") := by
    refine (owners _).mpr ⟨by simp, .inl rfl⟩
  obtain rfl : namesake = some (called "d" "n") := by
    refine (namesakes _).mpr ⟨by simp, .inr ⟨by decide, rfl, "d", rfl, by decide⟩⟩
  obtain rfl : nobody = none := nobodies.mpr (by decide)
  have pair : ids.take 2 = ["c", "d"] := by
    rw [listed]
    decide
  refine ⟨reachable, pair ▸ limited 2, found, found', missed, rfl, ?_⟩
  exact fails (.insert (called "x" "k")) (refusal "x") rfl

end CatalogSync.MemoryIndex
