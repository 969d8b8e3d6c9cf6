/-
**An index in memory in place of a core.**

A core is asked for the first visible record, by id, that answers to a reference
(`MemoryIndex.first?`). An index in memory finds another one just if the reference is contested.

* `Client.Agrees` — an index in memory and a core give the same answers.
* **`Mirrors.agrees`** — they do so if the core mirrors the index.
* **`interchangeable`** — so an index in memory stands in for a core, if a commit is made on it
  before documents are removed, and of references that are not contested.
* `core_answers_differently` — without such a commit, and of a contested reference, the answers
  differ.
-/

import CatalogSync.Proofs.Index.Lookup
import CatalogSync.Proofs.Solr.Mirror

namespace CatalogSync

namespace Solr.Client

/-! ### What a core finds -/

/-- Besides the fields of its scope, a document has the fields of a record. -/
def Shows (document record : Record) : Prop :=
  ∀ field ∉ scopeFields, document.get? field = (record.get? field).map Value.canonical

theorem shows_shown {σ : Type} (client : Client σ) (id : String) (record : Record) :
    Shows (client.shown id record) record := fun field beside => by
  rw [shown, get?_document_of_notMem client _ id beside, Record.get?_canonical]

/-- A document has the id of the record. -/
theorem id?_of_shows {document record : Record} (alike : Shows document record) :
    document.id? = record.id? := by
  unfold Record.id?
  rw [alike "id" (by decide), Record.bind_text?_canonical]

/-- An index in memory and a core give the same answers. -/
structure Agrees (client : Client Core) (index : MemoryIndex) (core : Core) : Prop where
  /-- All ids are the same, and so are the first ones, however many. -/
  ids : ∀ limit, (client.reader.ids limit).effect core =
    (((MemoryIndex.reader.ids limit).effect index).1, core)
  /-- The core is asked for the first record that answers to a reference, if it can be asked. -/
  find : ∀ reference, client.CanSelect (referenceFilter client.scope reference) "*" 1 0 →
    ∃ found, (client.reader.find reference).effect core = (.ok found, core) ∧
      Option.Rel Shows found (index.first? reference)
  /-- The index in memory finds this one, just if the reference is not contested. -/
  tie : ∀ reference, ((MemoryIndex.reader.find reference).effect index).1 =
    .ok (index.first? reference) ↔ ¬ index.Contested reference
  /-- Every further call comes to the same. -/
  outcome : ∀ write : IndexWrite, ((write.perform client.writer).effect core).1 =
    ((write.perform MemoryIndex.writer).effect index).1

namespace Mirrors

variable {client : Client Core} {bound : Nat} {index : MemoryIndex} {core : Core}

section Matching

variable (mirrors : client.Mirrors bound index core)
include mirrors

/-- The documents that pass a filter are those for the visible records that pass a test, in the
order of their ids. -/
theorem matching {filter : String} {test : Record → Bool}
    (alike : ∀ id record, passes filter (client.shown id record) = test record) :
    core.matching filter =
      (index.visible.entries.filter fun entry => test entry.2).map
        fun entry => client.shown entry.1 entry.2 := by
  have passing : core.visible.values.filter (passes filter) =
      (index.visible.entries.filter fun entry => test entry.2).map
        fun entry => client.shown entry.1 entry.2 := by
    rw [mirrors.visible, image, SortedMap.values_rekey, List.filter_map]
    refine congrArg (List.map _) (List.filter_congr fun entry _ => alike entry.1 entry.2)
  have ascending : (index.visible.entries.filter fun entry => test entry.2).Pairwise
      fun earlier later => earlier.1 < later.1 := index.visible.ordered.filter _
  unfold Core.matching
  rw [passing]
  refine List.mergeSort_of_pairwise (List.pairwise_map.mpr (ascending.imp_of_mem ?_))
  intro earlier later member member' less
  have own : earlier.2.id? = some earlier.1 :=
    mirrors.visibleIds earlier (List.mem_filter.mp member).1
  have own' : later.2.id? = some later.1 :=
    mirrors.visibleIds later (List.mem_filter.mp member').1
  rw [id?_shown, id?_shown, own, own']
  exact decide_eq_true less.le

theorem canonical_matching {filter : String} {test : Record → Bool}
    (alike : ∀ id record, passes filter (client.shown id record) = test record) :
    ∀ document ∈ core.matching filter, document.canonical = document := by
  intro document member
  rw [mirrors.matching alike] at member
  obtain ⟨entry, -, rfl⟩ := List.mem_map.mp member
  exact canonical_shown client entry.1 entry.2

theorem length_matching_le {filter : String} {test : Record → Bool}
    (alike : ∀ id record, passes filter (client.shown id record) = test record) :
    (core.matching filter).length ≤ bound := by
  rw [mirrors.matching alike, List.length_map]
  exact (List.length_filter_le _ _).trans ((Nat.le_add_right _ _).trans mirrors.few)

theorem ids_matching : (core.matching client.scope).filterMap Record.id? = index.visible.keys := by
  have own : ∀ entry ∈ index.visible.entries,
      (client.shown entry.1 entry.2).id? = some entry.1 := fun entry member => by
    rw [id?_shown]
    exact mirrors.visibleIds entry member
  rw [mirrors.matching (passes_scope_shown client), List.filter_true, List.filterMap_map]
  exact (List.filterMap_congr own).trans (congrFun List.filterMap_eq_map index.visible.entries)

end Matching

/-! ### Answers -/

variable (mirrors : client.Mirrors bound index core) (behind : client.transport = Core.transport)
  (reaches : client.Reaches bound) (few : bound < Text.wordLimit)
include mirrors behind reaches

section Reading

include few

/-- A core that mirrors an index answers requests for ids. -/
theorem serves : client.Serves (core.matching client.scope) (· = core) := by
  have short := mirrors.length_matching_le (passes_scope_shown client)
  refine ⟨reaches.base, fun rows start wanted bounded inside =>
    reaches.lists rows start wanted bounded (inside.trans short), ?_⟩
  intro rows start request state holding asks
  rw [holding]
  have listing := short.trans_lt few
  have legible : ∀ document ∈ core.matching client.scope,
      Record.ofValue? document.toValue.canonical = some document := fun document member => by
    rw [Record.ofValue?_canonical,
      mirrors.canonical_matching (passes_scope_shown client) document member]
  exact ⟨_, _, core, exchange_select behind reaches ⟨asks.method, asks.body, asks.address⟩ core,
    rfl, ⟨rfl, rfl, Shelf.ofValue?_written legible listing rows start⟩,
    Page.excerpt_slice listing rows start⟩

theorem effect_ids_core (limit : Option Nat) :
    (client.reader.ids limit).effect core =
      (((MemoryIndex.reader.ids limit).effect index).1, core) := by
  obtain ⟨reached, found, rfl⟩ :=
    effect_ids_take (mirrors.serves behind reaches few) limit rfl
  rw [mirrors.ids_matching] at found
  have listed : index.visible.keys.take (limit.getD allIds) = index.ids limit := by
    cases limit with
    | some limit => rfl
    | none =>
      have keys : index.visible.keys.length ≤ bound :=
        (List.length_map _).trans_le ((Nat.le_add_right _ _).trans mirrors.few)
      exact List.take_of_length_le (keys.trans (Nat.le_sub_one_of_lt few))
  rw [listed] at found
  exact found

theorem effect_find_core {reference : String}
    (sendable : client.CanSelect (referenceFilter client.scope reference) "*" 1 0) :
    ∃ found, (client.reader.find reference).effect core = (.ok found, core) ∧
      Option.Rel Shows found (index.first? reference) := by
  have alike := passes_reference_shown client reference
  have selected := effect_select_core behind reaches sendable
    ((mirrors.length_matching_le alike).trans_lt few) (mirrors.canonical_matching alike)
  have first : (index.visible.entries.filter fun entry => entry.2.answersTo reference).head?.map
      Prod.snd = index.first? reference := by
    rw [List.head?_filter, MemoryIndex.first?, SortedMap.values, List.find?_map]
    rfl
  refine ⟨_, Action.effect_bind_of_ok selected _, ?_⟩
  show Option.Rel Shows (((core.matching _).drop 0).take 1).head? _
  rw [mirrors.matching alike, ← first, List.drop_zero]
  cases index.visible.entries.filter fun entry => entry.2.answersTo reference with
  | nil => exact .none
  | cons entry rest => exact .some (shows_shown client entry.1 entry.2)

end Reading

/-- Whatever the call is, it comes to the same on both sides. -/
theorem outcome (write : IndexWrite) :
    ((write.perform client.writer).effect core).1 =
      ((write.perform MemoryIndex.writer).effect index).1 := by
  by_cases removes : write.removal?.isSome = true
  · obtain ⟨record, id, rfl, known⟩ := IndexWrite.eq_remove_of_removal removes
    rw [IndexWrite.perform, IndexWrite.perform, effect_remove_core behind reaches core known,
      MemoryIndex.effect_remove known]
  · exact (mirrors.perform behind reaches fun removes' => absurd removes' removes).1

/-- **A core that mirrors an index gives the same answers.** -/
theorem agrees (few : bound < Text.wordLimit) : client.Agrees index core where
  ids := mirrors.effect_ids_core behind reaches few
  find _ := mirrors.effect_find_core behind reaches few
  tie reference := by
    rw [← MemoryIndex.first?_eq_find?_iff mirrors.visibleIds]
    exact ⟨fun same => (Except.ok.inj same).symm, fun same => congrArg _ same.symm⟩
  outcome := mirrors.outcome behind reaches

end Mirrors

/-! ### The main statement -/

/-- **An index in memory stands in for a core.** After any row of calls they give the same answers
if on the index a commit precedes each removal, and also without these commits if nothing is pending
whenever documents are removed. -/
theorem interchangeable (client : Client Core) (behind : client.transport = Core.transport)
    (writes : List IndexWrite) (few : writes.length < Text.wordLimit)
    (reaches : client.Reaches writes.length) :
    client.Agrees (MemoryIndex.writer.after (IndexWrite.flushing writes) .empty)
        (client.writer.after writes .empty) ∧
      (MemoryIndex.empty.Tidy writes →
        client.Agrees (MemoryIndex.writer.after writes .empty)
          (client.writer.after writes .empty)) := by
  rw [← Nat.zero_add writes.length] at few reaches
  exact ⟨(mirrors_empty.after_flushing behind reaches writes).agrees behind reaches few,
    fun tidy => (mirrors_empty.after_of_tidy behind reaches tidy).agrees behind reaches few⟩

/-- A core that is asked for one id at a time. -/
def facing : Client Core :=
  ⟨((Settings.ofUrl "http://[::1]/c").withSiteId "s").withRowsMax 1, .package, Core.transport⟩

theorem reaches_facing : facing.Reaches 2 where
  base := by
    have known : (Url.Address.parse facing.settings.baseUrl).isOk = true := by decide +kernel
    exact exists_of_isOk known
  update := by decide +kernel
  select := by decide +kernel
  posts := by
    have known : ∀ commit : Bool, (facing.request .post facing.updateUrl
        (if commit then [("commit", "true")] else []) none).isOk = true := by decide +kernel
    exact fun commit => exists_of_isOk (known commit)
  lists := by
    have known : ∀ start ≤ 2, (facing.request .get facing.selectUrl
        (selecting facing.scope "id" 1 start) none).isOk = true := by decide +kernel
    intro rows start wanted bounded inside
    obtain rfl : rows = 1 := Nat.le_antisymm bounded wanted
    exact exists_of_isOk (known start inside)

/-- A document is held back while another one is removed. The core shows it, and so does the index
in memory after a commit. -/
theorem interchangeable_of_held :
    let held : List IndexWrite := [.update (.idOnly "a") true, .remove (.idOnly "b")]
    let shown : List IndexWrite := [.update (.idOnly "a") false, .remove (.idOnly "b")]
    facing.transport = Core.transport ∧ held.length < Text.wordLimit ∧ facing.Reaches held.length ∧
      MemoryIndex.empty.Tidy shown ∧
      ((facing.reader.ids none).effect (facing.writer.after held .empty)).1 = .ok ["a"] ∧
      ((facing.reader.ids none).effect (facing.writer.after shown .empty)).1 = .ok ["a"] := by
  intro held shown
  have few : held.length < Text.wordLimit := by decide
  have tidy : MemoryIndex.empty.Tidy shown := ⟨fun _ => rfl, fun _ => rfl, trivial⟩
  obtain ⟨flushed, -⟩ := interchangeable facing rfl held few reaches_facing
  obtain ⟨-, plain⟩ := interchangeable facing rfl shown few reaches_facing
  refine ⟨rfl, few, reaches_facing, tidy, ?_, ?_⟩
  · rw [flushed.ids]
    rfl
  · rw [(plain tidy).ids]
    rfl

/-- **Without a commit before a removal, and of a contested reference, the answers differ.** A
document is held back while another one is removed: the core shows it and the index in memory does
not. A reference is the name of one document and the id of a later one: the core finds the former
and the index in memory the latter. -/
theorem core_answers_differently :
    let held : List IndexWrite := [.update (.idOnly "a") true, .remove (.idOnly "b")]
    let named : List IndexWrite := [.insert (MemoryIndex.called "a" "b"), .insert (.idOnly "b")]
    ((facing.reader.ids none).effect (facing.writer.after held .empty)).1 = .ok ["a"] ∧
      ((MemoryIndex.reader.ids none).effect (MemoryIndex.writer.after held .empty)).1 = .ok [] ∧
      (∃ found, ((facing.reader.find "b").effect (facing.writer.after named .empty)).1 =
        .ok (some found) ∧ found.id? = some "a") ∧
      ∃ found, ((MemoryIndex.reader.find "b").effect (MemoryIndex.writer.after named .empty)).1 =
        .ok (some found) ∧ found.id? = some "b" := by
  intro held named
  have mirrored (writes : List IndexWrite) (short : writes.length ≤ 2) :=
    ((mirrors_empty.after_flushing rfl reaches_facing writes).mono (by omega)).agrees rfl
      reaches_facing (by decide)
  refine ⟨?_, rfl, ?_, _, rfl, rfl⟩
  · rw [(mirrored held (by decide)).ids]
    rfl
  · have sendable : facing.CanSelect (referenceFilter facing.scope "b") "*" 1 0 :=
      exists_of_isOk (by decide +kernel)
    obtain ⟨found, answered, alike⟩ := (mirrored named (by decide)).find "b" sendable
    have first : (MemoryIndex.writer.after (IndexWrite.flushing named) .empty).first? "b" =
        some (MemoryIndex.called "a" "b") := rfl
    rw [first] at alike
    cases alike with
    | some shown => exact ⟨_, congrArg Prod.fst answered, (id?_of_shows shown).trans rfl⟩

end Solr.Client

end CatalogSync
