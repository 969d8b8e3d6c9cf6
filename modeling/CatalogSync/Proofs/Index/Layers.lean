/-
**The two layers of an index in memory.**

* `accept` — the id under which a record is kept, or the reason why it is refused. Only the
  refused ids count, so no call changes it.
* `effect_insert`, `effect_update`, `effect_remove`, `effect_clear`, `effect_commit` — every call
  notes itself and then changes the layers in one step.
* `settled` — the documents that are visible after one more commit. A commit leaves them as they
  are (`settled_committed`), and an accepted write puts its record among them, whether it is
  committed at once or held back (`settled_written`).
-/

import CatalogSync.Index.Memory

namespace CatalogSync.MemoryIndex

/-! ### Accepting and refusing -/

/-- The id under which a record is kept, or the reason why its writes are refused. -/
def accept (index : MemoryIndex) (record : Record) : Except SearchError String :=
  match record.id? with
  | none => .error missingId
  | some id => if id ∈ index.refused then .error (refusal id) else .ok id

/-- An accepted record is kept under its own id. -/
theorem id?_of_accept {index : MemoryIndex} {record : Record} {id : String}
    (accepted : index.accept record = .ok id) : record.id? = some id := by
  unfold accept at accepted
  cases known : record.id? with
  | none =>
    rw [known] at accepted
    cases accepted
  | some own =>
    rw [known] at accepted
    by_cases refused : own ∈ index.refused
    · simp only [if_pos refused, reduceCtorEq] at accepted
    · simp only [if_neg refused, Except.ok.injEq] at accepted
      rw [accepted]

/-- A record without an id is refused. -/
theorem accept_of_nameless {record : Record} (nameless : record.id? = none) (index : MemoryIndex) :
    index.accept record = .error missingId := by
  unfold accept
  rw [nameless]

/-- A record whose id is refused is refused for that. -/
theorem accept_of_refused {index : MemoryIndex} {record : Record} {id : String}
    (known : record.id? = some id) (refused : id ∈ index.refused) :
    index.accept record = .error (refusal id) := by
  unfold accept
  rw [known]
  exact if_pos refused

/-- A record whose id is not refused is kept under it. -/
theorem accept_of_admitted {index : MemoryIndex} {record : Record} {id : String}
    (known : record.id? = some id) (admitted : id ∉ index.refused) :
    index.accept record = .ok id := by
  unfold accept
  rw [known]
  exact if_neg admitted

/-- Nothing is kept under an id that is refused. -/
theorem admitted_of_accept {index : MemoryIndex} {record : Record} {id : String}
    (accepted : index.accept record = .ok id) : id ∉ index.refused := by
  intro refused
  rw [accept_of_refused (id?_of_accept accepted) refused] at accepted
  cases accepted

/-- An index that refuses nobody keeps every record that has an id. -/
theorem accept_of_open {index : MemoryIndex} (nobody : index.refused = []) {record : Record}
    {id : String} (known : record.id? = some id) : index.accept record = .ok id :=
  accept_of_admitted known (nobody ▸ List.not_mem_nil)

/-- Indexes that refuse the same ids accept the same records. -/
theorem accept_congr {first second : MemoryIndex} (same : first.refused = second.refused) :
    first.accept = second.accept := by
  funext record
  unfold accept
  rw [same]

/-! ### Writes -/

/-- The index after a write: with the record pending or visible, or as it was if it is refused. -/
def written (record : Record) (commit : Bool) (index : MemoryIndex) : MemoryIndex :=
  match index.accept record with
  | .error _ => index
  | .ok id => if commit then (index.holding id record).committed else index.holding id record

theorem written_of_error {index : MemoryIndex} {record : Record} {failure : SearchError}
    (refused : index.accept record = .error failure) (commit : Bool) :
    index.written record commit = index := by
  unfold written
  rw [refused]

theorem written_of_ok {index : MemoryIndex} {record : Record} {id : String}
    (accepted : index.accept record = .ok id) (commit : Bool) :
    index.written record commit =
      if commit then (index.holding id record).committed else index.holding id record := by
  unfold written
  rw [accepted]

@[simp]
theorem refused_written (index : MemoryIndex) (record : Record) (commit : Bool) :
    (index.written record commit).refused = index.refused := by
  unfold written
  cases index.accept record with
  | error failure => rfl
  | ok id =>
    cases commit
    · rfl
    · rfl

@[simp]
theorem calls_written (index : MemoryIndex) (record : Record) (commit : Bool) :
    (index.written record commit).calls = index.calls := by
  unfold written
  cases index.accept record with
  | error failure => rfl
  | ok id =>
    cases commit
    · rfl
    · rfl

theorem effect_write (record : Record) (commit : Bool) (index : MemoryIndex) :
    (write record commit).effect index =
      ((index.accept record).map fun _ => (), index.written record commit) := by
  unfold write written accept
  cases known : record.id? with
  | none => rfl
  | some id =>
    by_cases refused : id ∈ index.refused
    · simp [Action.effect_bind, refused, Except.map]
    · simp [Action.effect_bind, refused, Except.map]

/-! ### What each call does -/

theorem effect_insert (record : Record) (index : MemoryIndex) :
    (writer.insert record).effect index =
      ((index.accept record).map fun _ => (),
        (index.noted (.insert (record.id?.getD ""))).written record true) := by
  show (Action.change _ >>= fun _ => write record true).effect index = _
  rw [Action.effect_bind, Action.effect_change]
  exact effect_write record true _

theorem effect_update (record : Record) (deferCommit : Bool) (index : MemoryIndex) :
    (writer.update record deferCommit).effect index =
      ((index.accept record).map fun _ => (),
        (index.noted (.update (record.id?.getD "") deferCommit)).written record !deferCommit) := by
  show (Action.change _ >>= fun _ => write record !deferCommit).effect index = _
  rw [Action.effect_bind, Action.effect_change]
  exact effect_write record _ _

theorem effect_remove {record : Record} {id : String} (known : record.id? = some id)
    (index : MemoryIndex) :
    (writer.remove record).effect index = (.ok (), (index.noted (.remove id)).without id) := by
  simp only [writer, known]
  rfl

theorem effect_remove_of_nameless {record : Record} (nameless : record.id? = none)
    (index : MemoryIndex) : (writer.remove record).effect index = (.error missingId, index) := by
  simp only [writer, nameless]
  rfl

theorem effect_clear (index : MemoryIndex) :
    writer.clear.effect index = (.ok (), (index.noted .clear).cleared) := rfl

theorem effect_commit (index : MemoryIndex) :
    writer.commit.effect index = (.ok (), (index.noted .commit).committed) := rfl

/-! ### The settled documents -/

/-- The documents that are visible after one more commit. -/
def settled (index : MemoryIndex) : SortedMap Record := index.visible.overlay index.pending

theorem visible_committed (index : MemoryIndex) : index.committed.visible = index.settled := rfl

/-- Without pending writes everything that is settled is visible. -/
theorem settled_of_pending_empty {index : MemoryIndex} (nothing : index.pending = .empty) :
    index.settled = index.visible := by
  unfold settled
  rw [nothing, SortedMap.overlay_empty]

/-- Without pending writes a commit changes nothing. -/
theorem committed_of_pending_empty {index : MemoryIndex} (nothing : index.pending = .empty) :
    index.committed = index := by
  cases index
  cases nothing
  rfl

@[simp]
theorem settled_noted (index : MemoryIndex) (call : IndexCall) :
    (index.noted call).settled = index.settled := rfl

@[simp]
theorem settled_committed (index : MemoryIndex) : index.committed.settled = index.settled := rfl

@[simp]
theorem settled_holding (index : MemoryIndex) (id : String) (record : Record) :
    (index.holding id record).settled = index.settled.insert id record :=
  SortedMap.overlay_insert index.visible index.pending id record

/-- **An accepted write puts its record among the settled documents, committed or not.** -/
theorem settled_written {index : MemoryIndex} {record : Record} {id : String}
    (accepted : index.accept record = .ok id) (commit : Bool) :
    (index.written record commit).settled = index.settled.insert id record := by
  rw [written_of_ok accepted]
  cases commit with
  | false => exact settled_holding index id record
  | true => exact (settled_committed _).trans (settled_holding index id record)

/-- A committed write leaves nothing pending if nothing was pending before. -/
theorem pending_written {index : MemoryIndex} (nothing : index.pending = .empty) (record : Record) :
    (index.written record true).pending = .empty := by
  unfold written
  cases index.accept record with
  | error failure => exact nothing
  | ok id => rfl

/-- A committed write is all that readers see anew if nothing was pending before. -/
theorem visible_written {index : MemoryIndex} (nothing : index.pending = .empty) {record : Record}
    {id : String} (accepted : index.accept record = .ok id) :
    (index.written record true).visible = index.visible.insert id record := by
  have settles := settled_written accepted true
  rw [settled_of_pending_empty nothing, settled_of_pending_empty (pending_written nothing record)]
    at settles
  exact settles

/-- A removal leaves nothing pending if nothing was pending before. -/
theorem pending_without {index : MemoryIndex} (nothing : index.pending = .empty)
    (reference : String) : (index.without reference).pending = .empty := by
  unfold without
  simp only
  rw [nothing]
  rfl

/-- A write that is held back changes nothing that readers see. -/
theorem visible_written_deferred (index : MemoryIndex) (record : Record) :
    (index.written record false).visible = index.visible := by
  unfold written
  cases index.accept record with
  | error failure => rfl
  | ok id => rfl

end CatalogSync.MemoryIndex
