/-
**When writes are committed, and what is left in the end.**

* `Retimed` — two rows of calls on an index that differ only in when writes are committed: an update
  may be held back in one and not in the other, and further commits may be made in either.
* `settle` — what a call makes of the documents of an index that has one layer only.
* `Revives` — a removal that meets the pending version of a document and misses the visible one,
  which the pending one was to replace.
* `settled_without_iff` — such a removal, and no other, brings an outdated version back.
* `settled_after` — a run without such removals leaves what it leaves in an index with one layer.
* **`visible_retimed`** — so retimed runs end with the same documents, as long as neither of them
  has such a removal.
* `outdated_version_returns` — with one they may end with different documents.

A commit moves documents from one layer to the other, and neither the ids that are refused nor the
settled documents depend on where a document lies. Only a removal looks into both layers.
-/

import CatalogSync.Proofs.Index.Layers
import CatalogSync.Proofs.Index.Write

namespace CatalogSync

namespace IndexWrite

/-- Two rows of calls that differ only in when writes are committed. -/
inductive Retimed : List IndexWrite → List IndexWrite → Prop
  | nil : Retimed [] []
  | same (write : IndexWrite) {first second : List IndexWrite} (rest : Retimed first second) :
    Retimed (write :: first) (write :: second)
  /-- An update may be held back in one row and not in the other. -/
  | update (record : Record) (deferFirst deferSecond : Bool) {first second : List IndexWrite}
    (rest : Retimed first second) :
    Retimed (.update record deferFirst :: first) (.update record deferSecond :: second)
  /-- A commit is made in the first row alone. -/
  | first {first second : List IndexWrite} (rest : Retimed first second) :
    Retimed (.commit :: first) second
  /-- A commit is made in the second row alone. -/
  | second {first second : List IndexWrite} (rest : Retimed first second) :
    Retimed first (.commit :: second)

/-- What a call makes of documents that lie in one layer, given the id under which a record is kept
if it is accepted. -/
def settle (accept : Record → Except SearchError String) (documents : SortedMap Record) :
    IndexWrite → SortedMap Record
  | .insert record | .update record _ =>
    match accept record with
    | .ok id => documents.insert id record
    | .error _ => documents
  | .remove record =>
    match record.id? with
    | some reference => documents.filter fun _ document => !document.answersTo reference
    | none => documents
  | .clear => .empty
  | .commit => documents

/-- The reference by which a call removes documents, if it does. -/
def removal? : IndexWrite → Option String
  | .remove record => record.id?
  | _ => none

/-- A call that removes documents is a removal of a record with an id. -/
theorem eq_remove_of_removal {write : IndexWrite} (removes : write.removal?.isSome = true) :
    ∃ record id, write = .remove record ∧ record.id? = some id := by
  cases write with
  | remove record =>
    obtain ⟨id, known⟩ := Option.isSome_iff_exists.mp removes
    exact ⟨record, id, rfl, known⟩
  | insert record => cases removes
  | update record deferCommit => cases removes
  | clear => cases removes
  | commit => cases removes

/-- In one layer it does not matter when writes are committed. -/
theorem foldl_settle_retimed {first second : List IndexWrite} (retimed : Retimed first second)
    (accept : Record → Except SearchError String) (documents : SortedMap Record) :
    first.foldl (settle accept) documents = second.foldl (settle accept) documents := by
  induction retimed generalizing documents with
  | nil => rfl
  | same write _ ih => exact ih _
  | update record _ _ _ ih => exact ih _
  | first _ ih => exact ih _
  | second _ ih => exact ih _

end IndexWrite

namespace MemoryIndex

variable {index : MemoryIndex} {reference : String}

/-! ### Removals that bring an outdated version back -/

/-- A removal would meet the pending version of a document and miss the visible one, which the
pending one was to replace. -/
def Revives (index : MemoryIndex) (reference : String) : Prop :=
  ∃ id latest outdated, index.pending.get? id = some latest ∧
    index.visible.get? id = some outdated ∧ latest.answersTo reference = true ∧
    outdated.answersTo reference = false

/-- **A removal removes from the settled documents those that answer to the reference, unless it
brings an outdated version back.** -/
theorem settled_without_iff :
    (index.without reference).settled =
        index.settled.filter (fun _ document => !document.answersTo reference) ↔
      ¬ index.Revives reference := by
  constructor
  · rintro alike ⟨id, latest, outdated, pending, visible, met, missed⟩
    have here := congrArg (SortedMap.get? · id) alike
    simp [settled, without, pending, visible, Option.filter_some, met, missed] at here
  · intro steady
    refine SortedMap.ext_get? fun id => ?_
    unfold settled without
    simp only [SortedMap.get?_overlay, SortedMap.get?_filter]
    cases pending : index.pending.get? id with
    | none => rfl
    | some latest =>
      cases met : latest.answersTo reference with
      | false => simp [Option.filter_some, met]
      | true =>
        cases visible : index.visible.get? id with
        | none => simp [Option.filter_some, met]
        | some outdated =>
          have both : outdated.answersTo reference = true := Bool.not_eq_false _ |>.mp fun missed =>
            steady ⟨id, latest, outdated, pending, visible, met, missed⟩
          simp [Option.filter_some, met, both]

/-! ### Runs -/

@[simp]
theorem refused_perform (write : IndexWrite) (index : MemoryIndex) :
    ((write.perform writer).effect index).2.refused = index.refused := by
  cases write with
  | insert record =>
    rw [IndexWrite.perform, effect_insert]
    exact refused_written _ _ _
  | update record deferCommit =>
    rw [IndexWrite.perform, effect_update]
    exact refused_written _ _ _
  | remove record =>
    rw [IndexWrite.perform]
    cases known : record.id? with
    | none => rw [effect_remove_of_nameless known]
    | some id =>
      rw [effect_remove known]
      rfl
  | clear => rfl
  | commit => rfl

/-- A call settles the documents as it does in one layer, unless it is a removal that brings an
outdated version back. -/
theorem settled_perform {write : IndexWrite}
    (steady : ∀ reference ∈ write.removal?, ¬ index.Revives reference) :
    ((write.perform writer).effect index).2.settled =
      IndexWrite.settle index.accept index.settled write := by
  -- the note that is taken of a call has no part in what is accepted or settled
  have wrote (record : Record) (commit : Bool) (call : IndexCall) :
      ((index.noted call).written record commit).settled =
        match index.accept record with
        | .ok id => index.settled.insert id record
        | .error _ => index.settled := by
    have noted : (index.noted call).accept record = index.accept record := rfl
    cases accepted : index.accept record with
    | error failure => rw [written_of_error (noted.trans accepted), settled_noted]
    | ok id => rw [settled_written (noted.trans accepted), settled_noted]
  cases write with
  | insert record =>
    rw [IndexWrite.perform, effect_insert]
    exact wrote record true _
  | update record deferCommit =>
    rw [IndexWrite.perform, effect_update]
    exact wrote record _ _
  | remove record =>
    cases known : record.id? with
    | none =>
      rw [IndexWrite.perform, effect_remove_of_nameless known]
      simp only [IndexWrite.settle, known]
    | some reference =>
      rw [IndexWrite.perform, effect_remove known]
      simp only [IndexWrite.settle, known]
      exact settled_without_iff.mpr (steady reference known)
  | clear => rfl
  | commit => rfl

/-- No removal of a run brings an outdated version back. -/
def Steady : MemoryIndex → List IndexWrite → Prop
  | _, [] => True
  | index, write :: rest =>
    (∀ reference ∈ write.removal?, ¬ index.Revives reference) ∧
      Steady ((write.perform writer).effect index).2 rest

/-- **A steady run leaves what it leaves in one layer.** -/
theorem settled_after {writes : List IndexWrite} (steady : index.Steady writes) :
    (writer.after writes index).settled =
      writes.foldl (IndexWrite.settle index.accept) index.settled := by
  induction writes generalizing index with
  | nil => rfl
  | cons write rest ih =>
    obtain ⟨first, others⟩ := steady
    rw [IndexWriter.after, ih others, settled_perform first,
      accept_congr (refused_perform write index), List.foldl_cons]

/-! ### The main statement -/

/-- A run that ends with a commit shows what is settled before it. -/
theorem visible_after_commit (writes : List IndexWrite) (index : MemoryIndex) :
    (writer.after (writes ++ [.commit]) index).visible = (writer.after writes index).settled := by
  rw [IndexWriter.after_append]
  rfl

/-- **When writes are committed has no part in which documents there are in the end**, as long as no
removal brings an outdated version back. These are the documents that the calls make of those that
were there, were there one layer only. And it is just the removals which meet a pending version and
miss the visible one that it is to replace that bring one back. -/
theorem visible_retimed (index : MemoryIndex) {first second : List IndexWrite}
    (retimed : IndexWrite.Retimed first second) (steady : index.Steady first)
    (steady' : index.Steady second) :
    (writer.after (first ++ [.commit]) index).visible =
        (writer.after (second ++ [.commit]) index).visible ∧
      (writer.after (first ++ [.commit]) index).visible =
        first.foldl (IndexWrite.settle index.accept) index.settled ∧
      ∀ (reached : MemoryIndex) (reference : String),
        (reached.without reference).settled =
            reached.settled.filter (fun _ document => !document.answersTo reference) ↔
          ¬ reached.Revives reference := by
  rw [visible_after_commit, visible_after_commit, settled_after steady, settled_after steady']
  exact ⟨IndexWrite.foldl_settle_retimed retimed index.accept index.settled, rfl,
    fun _ _ => settled_without_iff⟩

/-- A dataset with a name. -/
def called (id name : String) : Record := (Record.idOnly id).insert "name" (.text name)

/-- Two documents are held back until one of them is removed by its name, or each of them is
committed on its own: in the end there is the other one. -/
theorem visible_retimed_of_held :
    let first : List IndexWrite := [.update (called "a" "alpha") true,
      .update (called "b" "beta") true, .remove (.idOnly "alpha")]
    let second : List IndexWrite := [.update (called "a" "alpha") false, .commit,
      .update (called "b" "beta") false, .remove (.idOnly "alpha")]
    IndexWrite.Retimed first second ∧ MemoryIndex.empty.Steady first ∧
      MemoryIndex.empty.Steady second ∧
      (writer.after (first ++ [.commit]) .empty).visible.keys = ["b"] ∧
      (writer.after (second ++ [.commit]) .empty).visible.keys = ["b"] := by
  intro first second
  have retimed : IndexWrite.Retimed first second :=
    .update _ _ _ (.second (.update _ _ _ (.same _ .nil)))
  have steady : MemoryIndex.empty.Steady first := by
    refine ⟨nofun, nofun, ?_, trivial⟩
    rintro reference - ⟨id, latest, outdated, -, visible, -⟩
    cases visible
  have steady' : MemoryIndex.empty.Steady second := by
    refine ⟨nofun, nofun, nofun, ?_, trivial⟩
    rintro reference - ⟨id, latest, outdated, pending, -⟩
    cases pending
  have alike := (visible_retimed .empty retimed steady steady').1
  have known : (writer.after (first ++ [.commit]) .empty).visible.keys = ["b"] := by decide
  exact ⟨retimed, steady, steady', known, alike ▸ known⟩

/-- **It does not hold of all runs.** A document is renamed and then removed by its new name. If the
renaming was held back the document is there again under its old name, and otherwise it is gone. -/
theorem outdated_version_returns :
    ¬ ∀ (index : MemoryIndex) (first second : List IndexWrite),
      IndexWrite.Retimed first second →
        (writer.after (first ++ [.commit]) index).visible =
          (writer.after (second ++ [.commit]) index).visible := by
  intro alike
  have same := alike .empty
    [.insert (called "a" "alpha"), .update (called "a" "beta") true, .remove (.idOnly "beta")]
    [.insert (called "a" "alpha"), .update (called "a" "beta") false, .remove (.idOnly "beta")]
    (.same _ (.update _ _ _ (.same _ .nil)))
  exact absurd (congrArg SortedMap.keys same) (by decide)

end MemoryIndex

end CatalogSync
