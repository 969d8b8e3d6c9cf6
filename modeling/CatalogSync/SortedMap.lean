/-
**Maps with text keys, in ascending order of the keys.**

* `SortedMap` — a list of entries together with the proof that its keys strictly ascend, so a key
  has at most one value and two maps that answer every look-up alike are equal.
* `get?_insert`, `get?_filter`, `get?_overlay` — what each operation does to every look-up.
* **`ext_get?`** — equality of maps is equality of their look-ups.

Keys are compared by code point, which is also the order of their UTF-8 bytes.
-/

namespace CatalogSync

universe u v

variable {α : Type u} {β : Type v}

/-- Finitely many values under text keys, held in ascending order of the keys. -/
structure SortedMap (α : Type u) where
  entries : List (String × α)
  ordered : entries.Pairwise fun earlier later => earlier.1 < later.1

namespace SortedMap

/-! ### Lists of entries -/

/-- The first value under a key. -/
def find? (entries : List (String × α)) (key : String) : Option α :=
  match entries with
  | [] => none
  | (other, value) :: rest => if other = key then some value else find? rest key

/-- Puts a value under a key, in place of the value that is there. -/
def insertEntry (key : String) (value : α) : List (String × α) → List (String × α)
  | [] => [(key, value)]
  | (other, kept) :: rest =>
    if key < other then (key, value) :: (other, kept) :: rest
    else if key = other then (key, value) :: rest
    else (other, kept) :: insertEntry key value rest

theorem mem_insertEntry {key : String} {value : α} {entries : List (String × α)}
    {entry : String × α} (member : entry ∈ insertEntry key value entries) :
    entry = (key, value) ∨ entry ∈ entries := by
  induction entries with
  | nil => simpa [insertEntry] using member
  | cons head rest ih =>
    obtain ⟨other, kept⟩ := head
    simp only [insertEntry] at member
    split at member
    · simpa using member
    · split at member
      · rcases List.mem_cons.mp member with here | there
        · exact .inl here
        · exact .inr (List.mem_cons_of_mem _ there)
      · rcases List.mem_cons.mp member with here | there
        · exact .inr (here ▸ List.mem_cons_self)
        · rcases ih there with new | old
          · exact .inl new
          · exact .inr (List.mem_cons_of_mem _ old)

/-- Putting a value under a key keeps the keys ascending. -/
theorem ordered_insertEntry (key : String) (value : α) {entries : List (String × α)}
    (ordered : entries.Pairwise fun earlier later => earlier.1 < later.1) :
    (insertEntry key value entries).Pairwise fun earlier later => earlier.1 < later.1 := by
  induction entries with
  | nil => simp [insertEntry]
  | cons head rest ih =>
    obtain ⟨other, kept⟩ := head
    have parts := List.pairwise_cons.mp ordered
    simp only [insertEntry]
    split
    · rename_i less
      refine List.pairwise_cons.mpr ⟨?_, ordered⟩
      intro entry member
      rcases List.mem_cons.mp member with here | there
      · exact here ▸ less
      · exact String.lt_trans less (parts.1 entry there)
    · split
      · rename_i same
        exact List.pairwise_cons.mpr ⟨fun entry member => same ▸ parts.1 entry member, parts.2⟩
      · rename_i notLess different
        refine List.pairwise_cons.mpr ⟨?_, ih parts.2⟩
        intro entry member
        rcases mem_insertEntry member with new | old
        · subst new
          rcases Decidable.em (other < key) with less | notGreater
          · exact less
          · exact absurd (String.le_antisymm (String.not_lt.mp notGreater)
              (String.not_lt.mp notLess)) different
        · exact parts.1 entry old

theorem find?_insertEntry (key : String) (value : α) (entries : List (String × α))
    (wanted : String) :
    find? (insertEntry key value entries) wanted =
      if key = wanted then some value else find? entries wanted := by
  induction entries with
  | nil => simp [insertEntry, find?]
  | cons head rest ih =>
    obtain ⟨other, kept⟩ := head
    simp only [insertEntry]
    split
    · simp [find?]
    · split
      · rename_i same
        subst same
        by_cases here : key = wanted <;> simp [find?, here]
      · rename_i different
        by_cases here : other = wanted
        · have apart : ¬ key = wanted := fun same => different (same.trans here.symm)
          simp [find?, here, apart]
        · simp [find?, here, ih]

/-- A key below all others has no value. -/
theorem find?_eq_none_of_lt {key : String} {entries : List (String × α)}
    (below : ∀ entry ∈ entries, key < entry.1) : find? entries key = none := by
  induction entries with
  | nil => rfl
  | cons head rest ih =>
    have apart : ¬ head.1 = key := fun same =>
      String.lt_irrefl key (same ▸ below head List.mem_cons_self)
    simp [find?, apart, ih fun entry member => below entry (List.mem_cons_of_mem _ member)]

theorem find?_filter (test : String → α → Bool) {entries : List (String × α)}
    (ordered : entries.Pairwise fun earlier later => earlier.1 < later.1) (key : String) :
    find? (entries.filter fun entry => test entry.1 entry.2) key =
      (find? entries key).filter (test key) := by
  induction entries with
  | nil => rfl
  | cons head rest ih =>
    obtain ⟨other, kept⟩ := head
    have parts := List.pairwise_cons.mp ordered
    by_cases here : other = key
    · subst here
      have gone : find? (rest.filter fun entry => test entry.1 entry.2) other = none :=
        find?_eq_none_of_lt fun entry member => parts.1 entry (List.mem_filter.mp member).1
      by_cases passes : test other kept = true <;>
        simp [find?, passes, gone, Option.filter]
    · by_cases passes : test other kept = true <;>
        simp [find?, passes, here, ih parts.2]

/-- Two lists with ascending keys that answer every look-up alike are equal. -/
theorem ext_find? {first second : List (String × α)}
    (orderedFirst : first.Pairwise fun earlier later => earlier.1 < later.1)
    (orderedSecond : second.Pairwise fun earlier later => earlier.1 < later.1)
    (alike : ∀ key, find? first key = find? second key) : first = second := by
  induction first generalizing second with
  | nil =>
    cases second with
    | nil => rfl
    | cons head rest => simpa [find?] using alike head.1
  | cons head rest ih =>
    obtain ⟨key, value⟩ := head
    cases second with
    | nil => simpa [find?] using alike key
    | cons head' rest' =>
      obtain ⟨key', value'⟩ := head'
      have parts := List.pairwise_cons.mp orderedFirst
      have parts' := List.pairwise_cons.mp orderedSecond
      have same : key = key' := by
        rcases Decidable.em (key < key') with less | notLess
        · have none : find? ((key', value') :: rest') key = none := find?_eq_none_of_lt
            (by
              intro entry member
              rcases List.mem_cons.mp member with here | there
              · exact here ▸ less
              · exact String.lt_trans less (parts'.1 entry there))
          have here := alike key
          rw [none] at here
          simp [find?] at here
        · rcases Decidable.em (key' < key) with less | notGreater
          · have none : find? ((key, value) :: rest) key' = none := find?_eq_none_of_lt
              (by
                intro entry member
                rcases List.mem_cons.mp member with here | there
                · exact here ▸ less
                · exact String.lt_trans less (parts.1 entry there))
            have here := alike key'
            rw [none] at here
            simp [find?] at here
          · exact String.le_antisymm (String.not_lt.mp notGreater) (String.not_lt.mp notLess)
      subst same
      have values : value = value' := by simpa [find?] using alike key
      subst values
      have rests : rest = rest' := by
        refine ih parts.2 parts'.2 fun wanted => ?_
        by_cases here : key = wanted
        · subst here
          rw [find?_eq_none_of_lt fun entry member => parts.1 entry member,
            find?_eq_none_of_lt fun entry member => parts'.1 entry member]
        · simpa [find?, here] using alike wanted
      rw [rests]

/-! ### Maps -/

/-- The map without entries. -/
def empty : SortedMap α := ⟨[], .nil⟩

instance : Inhabited (SortedMap α) := ⟨empty⟩

/-- The value under a key. -/
def get? (map : SortedMap α) (key : String) : Option α := find? map.entries key

/-- The map with a value put under a key, in place of the value that was there. -/
def insert (map : SortedMap α) (key : String) (value : α) : SortedMap α :=
  ⟨insertEntry key value map.entries, ordered_insertEntry key value map.ordered⟩

/-- The entries whose key and value pass a test. -/
def filter (map : SortedMap α) (test : String → α → Bool) : SortedMap α :=
  ⟨map.entries.filter fun entry => test entry.1 entry.2, map.ordered.filter _⟩

/-- The map with further entries put into it, one after the other. -/
def insertAll (map : SortedMap α) (entries : List (String × α)) : SortedMap α :=
  entries.foldl (fun map entry => map.insert entry.1 entry.2) map

/-- The first map with every entry of the second put over it. -/
def overlay (base top : SortedMap α) : SortedMap α := base.insertAll top.entries

/-- The map of a list of entries, in which the last value under a key counts. -/
def ofList (entries : List (String × α)) : SortedMap α := empty.insertAll entries

/-- The keys in ascending order. -/
def keys (map : SortedMap α) : List String := map.entries.map Prod.fst

/-- The values in ascending order of their keys. -/
def values (map : SortedMap α) : List α := map.entries.map Prod.snd

/-- The number of entries. -/
def size (map : SortedMap α) : Nat := map.entries.length

/-- Whether there are no entries. -/
def isEmpty (map : SortedMap α) : Bool := map.entries.isEmpty

/-- Whether there is a value under the key. -/
def contains (map : SortedMap α) (key : String) : Bool := (map.get? key).isSome

instance [DecidableEq α] : DecidableEq (SortedMap α) := fun first second =>
  if same : first.entries = second.entries then
    isTrue (by cases first; cases second; simp_all)
  else
    isFalse fun equal => same (by rw [equal])

/-! ### What each operation does to every look-up -/

@[simp]
theorem get?_empty (key : String) : (empty : SortedMap α).get? key = none := rfl

@[simp]
theorem get?_insert (map : SortedMap α) (key : String) (value : α) (wanted : String) :
    (map.insert key value).get? wanted = if key = wanted then some value else map.get? wanted :=
  find?_insertEntry key value map.entries wanted

@[simp]
theorem get?_filter (map : SortedMap α) (test : String → α → Bool) (key : String) :
    (map.filter test).get? key = (map.get? key).filter (test key) :=
  find?_filter test map.ordered key

theorem get?_insertAll (map : SortedMap α) {entries : List (String × α)}
    (ordered : entries.Pairwise fun earlier later => earlier.1 < later.1) (key : String) :
    (map.insertAll entries).get? key = (find? entries key).or (map.get? key) := by
  induction entries generalizing map with
  | nil => rfl
  | cons head rest ih =>
    obtain ⟨other, value⟩ := head
    have parts := List.pairwise_cons.mp ordered
    show ((map.insert other value).insertAll rest).get? key = _
    rw [ih (map.insert other value) parts.2, get?_insert]
    by_cases here : other = key
    · subst here
      rw [find?_eq_none_of_lt fun entry member => parts.1 entry member]
      simp [find?]
    · simp [find?, here]

/-- Putting entries in adds their keys to those that have a value. -/
theorem contains_insertAll (map : SortedMap α) (entries : List (String × α)) (key : String) :
    (map.insertAll entries).contains key =
      (map.contains key || (entries.map Prod.fst).contains key) := by
  induction entries generalizing map with
  | nil => exact (Bool.or_false _).symm
  | cons head rest ih =>
    show ((map.insert head.1 head.2).insertAll rest).contains key = _
    rw [ih]
    unfold contains
    rw [get?_insert]
    by_cases here : head.1 = key
    · simp [here]
    · have apart : (key == head.1) = false := beq_eq_false_iff_ne.mpr fun same => here same.symm
      rw [if_neg here, List.map_cons, List.contains_cons, apart, Bool.false_or]

/-- What lies on top is found first. -/
@[simp]
theorem get?_overlay (base top : SortedMap α) (key : String) :
    (base.overlay top).get? key = (top.get? key).or (base.get? key) :=
  get?_insertAll base top.ordered key

@[simp]
theorem overlay_empty (base : SortedMap α) : base.overlay empty = base := rfl

theorem find?_isSome_iff (entries : List (String × α)) (key : String) :
    (find? entries key).isSome = (entries.map Prod.fst).contains key := by
  induction entries with
  | nil => rfl
  | cons head rest ih =>
    obtain ⟨other, value⟩ := head
    by_cases here : other = key
    · simp [find?, here]
    · have apart : ¬ key = other := fun same => here same.symm
      simp [find?, here, apart, ih]

/-- The keys are those under which there is a value. -/
theorem keys_contains (map : SortedMap α) (key : String) :
    map.keys.contains key = map.contains key :=
  (find?_isSome_iff map.entries key).symm

/-- **Equality of maps is equality of their look-ups.** -/
theorem ext_get? {first second : SortedMap α} (alike : ∀ key, first.get? key = second.get? key) :
    first = second := by
  have entries := ext_find? first.ordered second.ordered alike
  cases first
  cases second
  simp_all

/-- What is put on top before the overlay lies on top after it. -/
theorem overlay_insert (base top : SortedMap α) (key : String) (value : α) :
    base.overlay (top.insert key value) = (base.overlay top).insert key value := by
  refine ext_get? fun wanted => ?_
  rw [get?_overlay, get?_insert, get?_insert, get?_overlay]
  split
  · rfl
  · rfl

/-- The keys strictly ascend. -/
theorem keys_ordered (map : SortedMap α) : map.keys.Pairwise (· < ·) :=
  List.pairwise_map.mpr map.ordered

end SortedMap

end CatalogSync
