/-
**Records in canonical form.**

* `Value.canonical_canonical` — the canonical form of a value is in canonical form.
* `Record.canonical` — the record with the values of all its fields in canonical form.
* **`ofValue?_canonical`** — this is the record that is read from the text of a record, and
  `canonical_canonical` — reading it once more changes nothing.
* `id?_canonical`, `name?_canonical` — texts are in canonical form, so what a record answers to
  stays as it is.
-/

import CatalogSync.Proofs.SortedMap
import CatalogSync.Record

namespace CatalogSync

namespace Value

theorem canonicalFields_eq_map (fields : List (String × Value)) :
    canonicalFields fields = fields.map fun field => (field.1, field.2.canonical) := by
  induction fields with
  | nil => rfl
  | cons field rest ih => rw [List.map_cons, ← ih, canonicalFields]

/-- Fields all of which are in canonical form are left as they are. -/
theorem canonicalFields_of_each {fields : List (String × Value)}
    (each : ∀ field ∈ fields, field.2.canonical = field.2) : canonicalFields fields = fields := by
  have same : ∀ field ∈ fields, (field.1, field.2.canonical) = field := fun field member =>
    Prod.ext rfl (each field member)
  rw [canonicalFields_eq_map, List.map_congr_left same, List.map_id']

mutual

/-- The canonical form of a value is in canonical form. -/
theorem canonical_canonical : ∀ value : Value, value.canonical.canonical = value.canonical
  | .null => rfl
  | .flag _ => rfl
  | .number _ => rfl
  | .float _ => rfl
  | .text _ => rfl
  | .list items => by rw [canonical, canonical, canonicalItems_canonicalItems items]
  | .object fields => by
    have each : (SortedMap.ofList (canonicalFields fields)).Each
        fun _ value => value.canonical = value := .ofList (canonical_canonicalFields fields)
    rw [canonical, canonical, canonicalFields_of_each each, SortedMap.ofList_entries]

theorem canonicalItems_canonicalItems :
    ∀ items : List Value, canonicalItems (canonicalItems items) = canonicalItems items
  | [] => rfl
  | item :: rest => by
    rw [canonicalItems, canonicalItems, canonical_canonical item,
      canonicalItems_canonicalItems rest]

theorem canonical_canonicalFields : ∀ fields : List (String × Value),
    ∀ field ∈ canonicalFields fields, field.2.canonical = field.2
  | [] => nofun
  | (name, value) :: rest => by
    intro field member
    rw [canonicalFields] at member
    rcases List.mem_cons.mp member with rfl | further
    · exact canonical_canonical value
    · exact canonical_canonicalFields rest field further

end

end Value

namespace Record

/-- The record with the values of all its fields in canonical form. -/
def canonical (record : Record) : Record :=
  ⟨record.fields.rekey (fun field => field) (fun less => less) fun _ value => value.canonical⟩

@[simp]
theorem get?_canonical (record : Record) (field : String) :
    record.canonical.get? field = (record.get? field).map Value.canonical :=
  SortedMap.get?_rekey (fun field => field) _ _ record.fields field

theorem canonical_insert (record : Record) (field : String) (value : Value) :
    (record.insert field value).canonical = record.canonical.insert field value.canonical :=
  congrArg Record.mk (SortedMap.rekey_insert _ _ _ record.fields field value)

@[simp]
theorem canonical_canonical (record : Record) : record.canonical.canonical = record.canonical := by
  refine congrArg Record.mk (SortedMap.ext_get? fun field => ?_)
  show record.canonical.canonical.get? field = record.canonical.get? field
  rw [get?_canonical, get?_canonical, Option.map_map]
  exact congrArg (Option.map · _) (funext Value.canonical_canonical)

theorem bind_text?_canonical (value : Option Value) :
    (value.map Value.canonical).bind Value.text? = value.bind Value.text? := by
  rcases value with - | value
  · rfl
  cases value with
  | null => rfl
  | flag _ => rfl
  | number _ => rfl
  | float _ => rfl
  | text _ => rfl
  | list _ => rfl
  | object _ => rfl

@[simp]
theorem id?_canonical (record : Record) : record.canonical.id? = record.id? := by
  unfold id?
  rw [get?_canonical, bind_text?_canonical]

@[simp]
theorem name?_canonical (record : Record) : record.canonical.name? = record.name? := by
  unfold name?
  rw [get?_canonical, bind_text?_canonical]

/-- **A record is read in canonical form.** -/
theorem ofValue?_canonical (record : Record) :
    ofValue? record.toValue.canonical = some record.canonical := by
  have fields : Value.canonicalFields record.fields.entries = record.canonical.fields.entries :=
    Value.canonicalFields_eq_map record.fields.entries
  unfold ofValue? toValue
  simp only [Value.canonical, fields, SortedMap.ofList_entries]

end Record

end CatalogSync
