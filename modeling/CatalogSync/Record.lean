/-
**Records and their summaries.**

* `Record` — the named fields of an entity, as the store of record holds them and as the index
  shows them. `Record.id?` and `Record.name?` are there only where the field holds a text.
* `RecordSummary` — the id, the name and the time of the last change of a record.
* `RecordSummary.ofValue?`, `RecordSummary.toValue` — reading and writing summaries.
-/

import CatalogSync.Entity
import CatalogSync.Time.Reader

namespace CatalogSync

/-- The named fields of an entity. -/
structure Record where
  fields : SortedMap Value
  deriving Inhabited

namespace Record

/-- The record without fields. -/
def empty : Record := ⟨.empty⟩

/-- The record that has nothing but an id. -/
def idOnly (id : String) : Record := ⟨SortedMap.empty.insert "id" (.text id)⟩

/-- The value of a field. -/
def get? (record : Record) (field : String) : Option Value := record.fields.get? field

/-- The record with a value put into a field. -/
def insert (record : Record) (field : String) (value : Value) : Record :=
  ⟨record.fields.insert field value⟩

/-- The id, if it is a text. -/
def id? (record : Record) : Option String := (record.get? "id").bind Value.text?

/-- The name, if it is a text. -/
def name? (record : Record) : Option String := (record.get? "name").bind Value.text?

@[simp]
theorem id?_idOnly (id : String) : (idOnly id).id? = some id := by
  unfold id? get? idOnly
  rw [SortedMap.get?_insert, if_pos rfl]
  rfl

/-- Whether the record has the reference as its id or as its name. -/
def answersTo (record : Record) (reference : String) : Bool :=
  record.id? == some reference || record.name? == some reference

theorem answersTo_iff {record : Record} {reference : String} :
    record.answersTo reference = true ↔
      record.id? = some reference ∨ record.name? = some reference := by
  unfold answersTo
  rw [Bool.or_eq_true, beq_iff_eq, beq_iff_eq]

/-- The record of an object, whose last value under a name counts. -/
def ofValue? : Value → Option Record
  | .object fields => some ⟨.ofList fields⟩
  | _ => none

/-- The record as an object. -/
def toValue (record : Record) : Value := .object record.fields.entries

/-- Whether two records have the same fields with the same values. -/
def same (first second : Record) : Bool := first.toValue == second.toValue

end Record

/-- What reports say about a record. -/
structure RecordSummary where
  id : String
  name : String
  modified : Option Time.Instant
  deriving DecidableEq, Repr, Inhabited

namespace RecordSummary

/-- A time that may be absent: null or the text of an instant. -/
def modifiedOfValue? : Value → Option (Option Time.Instant)
  | .null => some none
  | .text text => (Time.Instant.read? text).map some
  | _ => none

/-- The summary that a value denotes: an object with its fields, in which the time may be missing
and other fields are passed over, or a list of exactly the three fields in order. -/
def ofValue? : Value → Option RecordSummary
  | .object fields => do
    let fields := SortedMap.ofList fields
    let id ← (fields.get? "id").bind Value.text?
    let name ← (fields.get? "name").bind Value.text?
    let modified ← modifiedOfValue? ((fields.get? "metadata_modified").getD .null)
    some ⟨id, name, modified⟩
  | .list [.text id, .text name, modified] => do
    some ⟨id, name, ← modifiedOfValue? modified⟩
  | _ => none

/-- The summary as an object. -/
def toValue (summary : RecordSummary) : Value :=
  .object
    [("id", .text summary.id),
      ("metadata_modified",
        match summary.modified with
        | some instant => .text instant.stored
        | none => .null),
      ("name", .text summary.name)]

end RecordSummary

end CatalogSync
