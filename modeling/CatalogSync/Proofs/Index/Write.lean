/-
**Calls on the writing side of an index.**

* `IndexWrite` — one of the five calls, with what it is given.
* `IndexWrite.perform` — making the call on an index.
* `IndexWriter.after` — the state after a row of calls.
* `IndexWrite.ofChange` — the call that brings a change to an index; `applyChange_eq_perform` says
  that it is the one that is made for it.
-/

import CatalogSync.Dispatch

namespace CatalogSync

/-- A call on the writing side of an index. -/
inductive IndexWrite where
  | insert (record : Record)
  | update (record : Record) (deferCommit : Bool)
  | remove (record : Record)
  | clear
  | commit

namespace IndexWrite

variable {σ τ : Type}

/-- The record that a call is about, if it is about one. -/
def record? : IndexWrite → Option Record
  | .insert record | .update record _ | .remove record => some record
  | .clear | .commit => none

/-- Whether a call is about a record without an id. -/
def isNameless (write : IndexWrite) : Bool := write.record?.any fun record => record.id?.isNone

/-- Makes the call. -/
def perform (write : IndexWrite) (writer : IndexWriter σ) : Action σ Unit :=
  match write with
  | .insert record => writer.insert record
  | .update record deferCommit => writer.update record deferCommit
  | .remove record => writer.remove record
  | .clear => writer.clear
  | .commit => writer.commit

/-- A call on an index in a part of a state is the call on that part. -/
theorem perform_on (write : IndexWrite) (lens : Lens τ σ) (writer : IndexWriter σ) :
    write.perform (writer.on lens) = (write.perform writer).on lens := by
  cases write with
  | insert record => rfl
  | update record deferCommit => rfl
  | remove record => rfl
  | clear => rfl
  | commit => rfl

/-- The call that brings a change of a record to an index. -/
def ofChange (record : Record) : ChangeOperation → IndexWrite
  | .created => .insert record
  | .changed => .update record false
  | .deleted => .remove ((record.id?.map Record.idOnly).getD record)

theorem applyChange_eq_perform (writer : IndexWriter σ) (record : Record)
    (operation : ChangeOperation) :
    Registry.applyChange writer record operation = (ofChange record operation).perform writer := by
  cases operation with
  | created => rfl
  | changed => rfl
  | deleted => rfl

end IndexWrite

namespace IndexWriter

variable {σ : Type} (writer : IndexWriter σ)

/-- The state after calls that are made one after the other, whatever each of them comes to. -/
def after : List IndexWrite → σ → σ
  | [], state => state
  | write :: rest, state => after rest ((write.perform writer).effect state).2

theorem after_append (front rest : List IndexWrite) (state : σ) :
    writer.after (front ++ rest) state = writer.after rest (writer.after front state) := by
  induction front generalizing state with
  | nil => rfl
  | cons write front ih => exact ih _

end IndexWriter

end CatalogSync
