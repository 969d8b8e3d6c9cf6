/-
**Entries of maps, and maps under other keys.**

* `Each` — all entries of a map pass a test. Every operation keeps it (`Each.insert`, `Each.filter`,
  `Each.overlay`).
* `get?_eq_some_iff` — the entries are what look-ups find, and `ofList_entries` — they make the map.
* `rekey` — a map with its keys renamed in a way that keeps their order, and with its values
  changed. It commutes with every operation (`get?_rekey`, **`rekey_insert`**, **`rekey_filter`**,
  **`rekey_overlay`**), since each of these goes by the order of the keys alone.
-/

import CatalogSync.SortedMap
import Mathlib.Data.String.Basic

namespace CatalogSync.SortedMap

universe u v

variable {α : Type u} {β : Type v}

/-! ### Entries -/

theorem mem_of_find? {entries : List (String × α)} {key : String} {value : α}
    (found : find? entries key = some value) : (key, value) ∈ entries := by
  induction entries with
  | nil => cases found
  | cons head rest ih =>
    obtain ⟨other, kept⟩ := head
    by_cases here : other = key
    · rw [find?, if_pos here] at found
      cases found
      exact here ▸ List.mem_cons_self
    · rw [find?, if_neg here] at found
      exact List.mem_cons_of_mem _ (ih found)

theorem find?_of_mem {entries : List (String × α)}
    (ordered : entries.Pairwise fun earlier later => earlier.1 < later.1) {key : String} {value : α}
    (member : (key, value) ∈ entries) : find? entries key = some value := by
  induction entries with
  | nil => cases member
  | cons head rest ih =>
    have parts := List.pairwise_cons.mp ordered
    rcases List.mem_cons.mp member with here | there
    · rw [← here, find?, if_pos rfl]
    · have apart : ¬ head.1 = key := (parts.1 _ there).ne
      rw [find?, if_neg apart]
      exact ih parts.2 there

/-- The entries are what look-ups find. -/
theorem get?_eq_some_iff {map : SortedMap α} {key : String} {value : α} :
    map.get? key = some value ↔ (key, value) ∈ map.entries :=
  ⟨mem_of_find?, find?_of_mem map.ordered⟩

/-- Entry by entry, the one with the least key among those that pass a test is found first. -/
theorem find?_entries_eq_some_iff {map : SortedMap α} {test : String × α → Bool}
    {entry : String × α} :
    map.entries.find? test = some entry ↔
      entry ∈ map.entries ∧ test entry = true ∧
        ∀ other ∈ map.entries, test other = true → entry.1 ≤ other.1 := by
  obtain ⟨entries, ordered⟩ := map
  simp only
  induction entries with
  | nil => simp
  | cons head rest ih =>
    have parts := List.pairwise_cons.mp ordered
    rcases passes : test head with - | -
    · rw [List.find?_cons_of_neg (by rw [passes]; exact Bool.false_ne_true), ih parts.2]
      constructor
      · rintro ⟨member, here, least⟩
        refine ⟨List.mem_cons_of_mem _ member, here, fun other there passes' => ?_⟩
        rcases List.mem_cons.mp there with rfl | there
        · exact absurd (passes'.symm.trans passes) Bool.true_eq_false.mp
        · exact least other there passes'
      · rintro ⟨member, here, least⟩
        rcases List.mem_cons.mp member with rfl | member
        · exact absurd (here.symm.trans passes) Bool.true_eq_false.mp
        · exact ⟨member, here, fun other there => least other (List.mem_cons_of_mem _ there)⟩
    · rw [List.find?_cons_of_pos passes, Option.some.injEq]
      constructor
      · rintro rfl
        refine ⟨List.mem_cons_self, passes, fun other there _ => ?_⟩
        rcases List.mem_cons.mp there with rfl | there
        · exact le_rfl
        · exact (parts.1 other there).le
      · rintro ⟨member, -, least⟩
        rcases List.mem_cons.mp member with same | member
        · exact same.symm
        · exact absurd (least head List.mem_cons_self passes) (parts.1 entry member).not_ge

/-- A map is the map of its entries. -/
theorem ofList_entries (map : SortedMap α) : ofList map.entries = map := by
  refine ext_get? fun key => ?_
  show (empty.overlay map).get? key = _
  rw [get?_overlay, get?_empty, Option.or_none]

/-- All entries of a map pass a test. -/
def Each (map : SortedMap α) (test : String → α → Prop) : Prop :=
  ∀ entry ∈ map.entries, test entry.1 entry.2

namespace Each

variable {map base top : SortedMap α} {test : String → α → Prop}

theorem empty : (SortedMap.empty : SortedMap α).Each test := nofun

/-- What is found under a key passes the test. -/
theorem of_get? (each : map.Each test) {key : String} {value : α}
    (held : map.get? key = some value) : test key value :=
  each _ (get?_eq_some_iff.mp held)

theorem insert (each : map.Each test) {key : String} {value : α} (passes : test key value) :
    (map.insert key value).Each test := by
  intro entry member
  rcases mem_insertEntry member with rfl | old
  · exact passes
  · exact each entry old

theorem filter (each : map.Each test) (further : String → α → Bool) :
    (map.filter further).Each test :=
  fun entry member => each entry (List.mem_filter.mp member).1

theorem insertAll (lower : base.Each test) {entries : List (String × α)}
    (each : ∀ entry ∈ entries, test entry.1 entry.2) : (base.insertAll entries).Each test := by
  refine List.foldlRecOn (motive := (Each · test)) entries _ lower ?_
  intro map before entry member
  exact before.insert (each entry member)

theorem ofList {entries : List (String × α)} (each : ∀ entry ∈ entries, test entry.1 entry.2) :
    (SortedMap.ofList entries).Each test :=
  empty.insertAll each

theorem overlay (lower : base.Each test) (upper : top.Each test) :
    (base.overlay top).Each test :=
  lower.insertAll upper

end Each

/-- What is kept was there before. -/
theorem get?_of_filter {map : SortedMap α} {test : String → α → Bool} {key : String} {value : α}
    (kept : (map.filter test).get? key = some value) : map.get? key = some value := by
  rw [get?_filter] at kept
  exact (Option.filter_eq_some_iff.mp kept).1

/-- A map none of whose entries passes a test keeps none of them. -/
theorem filter_eq_empty {map : SortedMap α} {test : String → α → Bool}
    (fails : map.Each fun key value => test key value = false) : map.filter test = empty := by
  refine ext_get? fun key => ?_
  rw [get?_filter, get?_empty]
  cases found : map.get? key with
  | none => rfl
  | some value => exact Option.filter_some_neg (fails.of_get? found)

/-! ### Sizes -/

theorem length_keys (map : SortedMap α) : map.keys.length = map.values.length := by
  unfold keys values
  rw [List.length_map, List.length_map]

theorem size_insert_le (map : SortedMap α) (key : String) (value : α) :
    (map.insert key value).size ≤ map.size + 1 := by
  suffices (insertEntry key value map.entries).length ≤ map.entries.length + 1 from this
  induction map.entries with
  | nil => exact Nat.le.refl
  | cons head rest ih =>
    unfold insertEntry
    split
    · exact Nat.le.refl
    · split
      · exact Nat.le_succ _
      · exact Nat.succ_le_succ ih

theorem size_filter_le (map : SortedMap α) (test : String → α → Bool) :
    (map.filter test).size ≤ map.size :=
  List.length_filter_le _ _

theorem size_overlay_le (base top : SortedMap α) :
    (base.overlay top).size ≤ base.size + top.size := by
  suffices ∀ entries : List (String × α), (base.insertAll entries).size ≤ base.size + entries.length
    from this top.entries
  intro entries
  induction entries generalizing base with
  | nil => exact Nat.le.refl
  | cons head rest ih =>
    refine (ih (base.insert head.1 head.2)).trans ?_
    have larger := base.size_insert_le head.1 head.2
    rw [List.length_cons]
    omega

/-! ### Other keys -/

section Rekey

variable (rename : String → String) (ascends : ∀ {first second}, first < second →
  rename first < rename second) (change : String → α → β)

/-- The map with its keys renamed in a way that keeps their order, and with its values changed. -/
def rekey (map : SortedMap α) : SortedMap β :=
  ⟨map.entries.map fun entry => (rename entry.1, change entry.1 entry.2),
    List.pairwise_map.mpr (map.ordered.imp ascends)⟩

include ascends in
theorem find?_rekey (entries : List (String × α)) (key : String) :
    find? (entries.map fun entry => (rename entry.1, change entry.1 entry.2)) (rename key) =
      (find? entries key).map (change key) := by
  induction entries with
  | nil => rfl
  | cons head rest ih =>
    rw [List.map_cons, find?, find?]
    rcases lt_trichotomy head.1 key with less | same | greater
    · rw [if_neg less.ne, if_neg (ascends less).ne, ih]
    · subst same
      rw [if_pos rfl, if_pos rfl]
      rfl
    · rw [if_neg greater.ne', if_neg (ascends greater).ne', ih]

/-- A value is found under its new key. -/
theorem get?_rekey (map : SortedMap α) (key : String) :
    (map.rekey rename ascends change).get? (rename key) = (map.get? key).map (change key) :=
  find?_rekey rename ascends change map.entries key

theorem values_rekey (map : SortedMap α) :
    (map.rekey rename ascends change).values =
      map.entries.map fun entry => change entry.1 entry.2 :=
  List.map_map

/-- What is put into a map is found under its new key. -/
theorem rekey_insert (map : SortedMap α) (key : String) (value : α) :
    (map.insert key value).rekey rename ascends change =
      (map.rekey rename ascends change).insert (rename key) (change key value) := by
  suffices (insertEntry key value map.entries).map
        (fun entry => (rename entry.1, change entry.1 entry.2)) =
      insertEntry (rename key) (change key value)
        (map.entries.map fun entry => (rename entry.1, change entry.1 entry.2)) by
    unfold rekey insert
    simp only [this]
  induction map.entries with
  | nil => rfl
  | cons head rest ih =>
    rw [List.map_cons, insertEntry, insertEntry]
    rcases lt_trichotomy key head.1 with less | same | greater
    · rw [if_pos less, if_pos (ascends less)]
      rfl
    · subst same
      rw [if_neg (lt_irrefl _), if_neg (lt_irrefl _), if_pos rfl, if_pos rfl]
      rfl
    · have after := ascends greater
      rw [if_neg greater.not_gt, if_neg after.not_gt, if_neg greater.ne', if_neg after.ne',
        List.map_cons, ih]

/-- An entry is kept under its new key just if it is kept under its old one. -/
theorem rekey_filter {map : SortedMap α} {test : String → α → Bool} {other : String → β → Bool}
    (alike : map.Each fun key value => other (rename key) (change key value) = test key value) :
    (map.filter test).rekey rename ascends change =
      (map.rekey rename ascends change).filter other := by
  unfold rekey filter
  simp only [List.filter_map]
  congr 2
  exact List.filter_congr fun entry member => (alike entry member).symm

theorem rekey_overlay (base top : SortedMap α) :
    (base.overlay top).rekey rename ascends change =
      (base.rekey rename ascends change).overlay (top.rekey rename ascends change) := by
  suffices ∀ entries : List (String × α), (base.insertAll entries).rekey rename ascends change =
      (base.rekey rename ascends change).insertAll
        (entries.map fun entry => (rename entry.1, change entry.1 entry.2)) from this top.entries
  intro entries
  induction entries generalizing base with
  | nil => rfl
  | cons head rest ih =>
    refine (ih (base.insert head.1 head.2)).trans ?_
    rw [rekey_insert]
    rfl

end Rekey

end CatalogSync.SortedMap
