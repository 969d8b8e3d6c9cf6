/-
**Which index a change is brought to.**

* `IndexWriter.noted` — a writer in front of which every call is noted. `Lens.component` — one index
  among many.
* `Registry.ofList` — the registry after a row of registrations. `Registry.get?_ofList_of_last` —
  the last one for a type counts.
* `Registry.dispatch_deleted_congr` — what a removal comes to depends on the id of the record alone.
* `Solr.Client.sends_remove` — a removal brings no documents to a core.
* **`Registry.dispatch_routed`** — so a change is one call on the index that was last registered for
  its type, and nothing else. Where no index is registered it is nothing at all, and asking for the
  documents of such a type fails.
-/

import CatalogSync.Bulk.Engine
import CatalogSync.Proofs.Feed.Order
import CatalogSync.Proofs.Index.Documents
import CatalogSync.Proofs.Solr.Ledger
import Mathlib.Data.List.Induction

namespace CatalogSync

/-! ### Indexes that note their calls -/

namespace IndexWriter

variable {τ : Type}

/-- The call, noted before it is made. -/
def noting (writer : IndexWriter τ) (write : IndexWrite) : Action (τ × List IndexWrite) Unit := do
  .change fun state => (state.1, state.2 ++ [write])
  (write.perform writer).on .first

/-- The writer in front of which every call is noted, the latest last. -/
def noted (writer : IndexWriter τ) : IndexWriter (τ × List IndexWrite) where
  insert record := writer.noting (.insert record)
  update record deferCommit := writer.noting (.update record deferCommit)
  remove record := writer.noting (.remove record)
  clear := writer.noting .clear
  commit := writer.noting .commit

/-- A call is what it is without its note. -/
theorem effect_noted (writer : IndexWriter τ) (write : IndexWrite)
    (state : τ × List IndexWrite) :
    (write.perform writer.noted).effect state =
      (((write.perform writer).effect state.1).1, ((write.perform writer).effect state.1).2,
        state.2 ++ [write]) := by
  have noting : write.perform writer.noted = writer.noting write := by
    cases write with
    | insert record => rfl
    | update record deferCommit => rfl
    | remove record => rfl
    | clear => rfl
    | commit => rfl
  rw [noting]
  exact Action.effect_bind_of_ok (Action.effect_change _ state) _

end IndexWriter

/-- One of many parts of a state. -/
def Lens.component {ι : Type} [DecidableEq ι] {τ : ι → Type} (place : ι) :
    Lens (∀ i, τ i) (τ place) where
  get state := state place
  set state part := Function.update state place part
  get_set state part := Function.update_self place part state
  set_get state := Function.update_eq_self place state
  set_set state first second := Function.update_idem first second state

/-! ### Registrations -/

namespace Registry

section Registrations

variable {η : Type} {entityType : EntityType}

/-- The registry after a row of registrations. -/
def ofList (registrations : List (EntityType × η)) : Registry η :=
  registrations.foldl (fun registry entry => registry.register entry.1 entry.2) .empty

theorem ofList_concat (registrations : List (EntityType × η)) (entry : EntityType × η) :
    ofList (registrations ++ [entry]) = (ofList registrations).register entry.1 entry.2 := by
  unfold ofList
  rw [List.foldl_append, List.foldl_cons, List.foldl_nil]

/-- Registrations for other types do not count. -/
theorem get?_ofList_append (front : List (EntityType × η)) {rest : List (EntityType × η)}
    (others : ∀ entry ∈ rest, entry.1 ≠ entityType) :
    (ofList (front ++ rest)).get? entityType = (ofList front).get? entityType := by
  induction rest using List.reverseRecOn with
  | nil => rw [List.append_nil]
  | append_singleton rest entry ih =>
    have apart : entry.1 ≠ entityType := others entry (List.mem_append_right _ (.head _))
    rw [← List.append_assoc, ofList_concat, get?_register, if_neg apart]
    exact ih fun other member => others other (List.mem_append_left _ member)

/-- The last registration for a type counts. -/
theorem get?_ofList_of_last (front : List (EntityType × η)) (handle : η)
    {rest : List (EntityType × η)} (last : ∀ entry ∈ rest, entry.1 ≠ entityType) :
    (ofList (front ++ (entityType, handle) :: rest)).get? entityType = some handle := by
  rw [List.append_cons, get?_ofList_append _ last, ofList_concat, get?_register, if_pos rfl]

theorem get?_ofList_of_absent {registrations : List (EntityType × η)}
    (absent : ∀ entry ∈ registrations, entry.1 ≠ entityType) :
    (ofList registrations).get? entityType = none :=
  get?_ofList_append [] absent

end Registrations

/-! ### Asking for a type -/

section Asking

variable {σ : Type} {readers : Registry (IndexReader σ)} {entityType : EntityType}
  (unknown : readers.get? entityType = none)
include unknown

/-- Nobody reads the documents of a type that is not registered. -/
theorem readerFor_of_none :
    readers.readerFor entityType = .error (.unknownType entityType.tag) := by
  unfold readerFor
  rw [unknown]

/-- So there is no engine for it. -/
theorem effect_ofRegistries_of_none (writers : Registry (IndexWriter σ)) (store : RecordStore σ)
    (state : σ) :
    (Engine.ofRegistries entityType writers readers store).effect state =
      (.error (.unknownType entityType.tag), state) := by
  unfold Engine.ofRegistries
  rw [readerFor_of_none unknown]
  exact Action.effect_bind_of_error rfl _

end Asking

end Registry

/-! ### Removals -/

namespace IndexWrite

/-- A removal is told nothing of a record but its id. -/
theorem ofChange_deleted_congr {first second : Record} {id : String} (known : first.id? = some id)
    (known' : second.id? = some id) : ofChange first .deleted = ofChange second .deleted := by
  unfold ofChange
  rw [known, known']
  rfl

end IndexWrite

/-- What a removal comes to depends on the id of the record alone. -/
theorem Registry.dispatch_deleted_congr {σ : Type} (registry : Registry (IndexWriter σ))
    (entityType : EntityType) {first second : Record} {id : String}
    (known : first.id? = some id) (known' : second.id? = some id) :
    registry.dispatch entityType first .deleted = registry.dispatch entityType second .deleted := by
  unfold dispatch
  simp only [IndexWrite.applyChange_eq_perform, IndexWrite.ofChange_deleted_congr known known']

/-- A removal brings no documents to a core. -/
theorem Solr.Client.sends_remove {σ : Type} (client : Client σ) (record : Record) :
    (client.noted.writer.remove record).Sends fun request => request.bringsDocuments = false := by
  cases known : record.id? with
  | none =>
    simp only [writer, known]
    exact .fail missingId
  | some id =>
    exact (client.sendsFilters.remove record id known).mono fun _ => bringsDocuments_of_filters _

/-! ### The main statement -/

namespace Registry

section Routing

variable {ι : Type} [DecidableEq ι] {τ : ι → Type} (handles : ∀ i, IndexWriter (τ i))

/-- The registry in which indexes out of many are registered, each with a note of its calls. -/
def enrolled (registrations : List (EntityType × ι)) :
    Registry (IndexWriter (∀ i, τ i × List IndexWrite)) :=
  ofList (registrations.map fun entry =>
    (entry.1, (handles entry.2).noted.on (.component entry.2)))

variable {handles} {registrations : List (EntityType × ι)} {entityType : EntityType}
  (record : Record) (operation : ChangeOperation) (states : ∀ i, τ i × List IndexWrite)

/-- A change is one call on the index that was last registered for its type. -/
theorem effect_dispatch_enrolled {front rest : List (EntityType × ι)} {place : ι}
    (last : ∀ later ∈ rest, later.1 ≠ entityType) :
    ((enrolled handles (front ++ (entityType, place) :: rest)).dispatch entityType record
        operation).effect states =
      let call := IndexWrite.ofChange record operation
      let outcome := (call.perform (handles place)).effect (states place).1
      (outcome.1, Function.update states place (outcome.2, (states place).2 ++ [call])) := by
  have registered : (enrolled handles (front ++ (entityType, place) :: rest)).get? entityType =
      some ((handles place).noted.on (.component place)) := by
    unfold enrolled
    rw [List.map_append, List.map_cons]
    refine get?_ofList_of_last _ _ fun entry member => ?_
    obtain ⟨later, inside, rfl⟩ := List.mem_map.mp member
    exact last later inside
  rw [effect_dispatch registered, IndexWrite.applyChange_eq_perform, IndexWrite.perform_on,
    Action.effect_on, IndexWriter.effect_noted]
  rfl

/-- A change of a type that is not registered is nothing. -/
theorem effect_dispatch_enrolled_of_absent
    (absent : ∀ entry ∈ registrations, entry.1 ≠ entityType) :
    ((enrolled handles registrations).dispatch entityType record operation).effect states =
      (.ok (), states) := by
  refine effect_dispatch_of_none (get?_ofList_of_absent fun entry member => ?_) record operation _
  obtain ⟨registration, inside, rfl⟩ := List.mem_map.mp member
  exact absent registration inside

end Routing

/-- **A change is one call on the index that was last registered for its type, and nothing else.**
The call is the one that goes with the operation, its result is the result of the change, and no
other index is called or changed. Where no index is registered for the type nothing happens, while
asking for the documents of a type that nobody reads fails, and so there is no engine for it. What a
removal does depends on the id of the record alone, and it brings no documents to any index. -/
theorem dispatch_routed {ι : Type} [DecidableEq ι] {τ : ι → Type}
    (handles : ∀ i, IndexWriter (τ i)) (registrations : List (EntityType × ι))
    (entityType : EntityType) (record : Record) (operation : ChangeOperation)
    (states : ∀ i, τ i × List IndexWrite) :
    (∀ front place rest, registrations = front ++ (entityType, place) :: rest →
        (∀ later ∈ rest, later.1 ≠ entityType) →
        ((enrolled handles registrations).dispatch entityType record operation).effect states =
          let call := IndexWrite.ofChange record operation
          let outcome := (call.perform (handles place)).effect (states place).1
          (outcome.1, Function.update states place (outcome.2, (states place).2 ++ [call]))) ∧
      ((∀ entry ∈ registrations, entry.1 ≠ entityType) →
        ((enrolled handles registrations).dispatch entityType record operation).effect states =
          (.ok (), states)) ∧
      (∀ readers : List (EntityType × IndexReader (∀ i, τ i × List IndexWrite)),
        (∀ entry ∈ readers, entry.1 ≠ entityType) →
          (ofList readers).readerFor entityType = .error (.unknownType entityType.tag) ∧
          ∀ store, (Engine.ofRegistries entityType (enrolled handles registrations)
            (ofList readers) store).effect states =
              (.error (.unknownType entityType.tag), states)) ∧
      (∀ other id, record.id? = some id → other.id? = some id →
        (enrolled handles registrations).dispatch entityType record .deleted =
          (enrolled handles registrations).dispatch entityType other .deleted) ∧
      (∀ (writers : Registry (IndexWriter MemoryIndex)) (index : MemoryIndex),
        writers.get? entityType = some MemoryIndex.writer →
        let reached := ((writers.dispatch entityType record .deleted).effect index).2
        ∀ id document,
          (reached.visible.get? id = some document → index.visible.get? id = some document) ∧
          (reached.pending.get? id = some document → index.pending.get? id = some document)) ∧
      ∀ (σ : Type) (client : Solr.Client σ)
          (writers : Registry (IndexWriter (σ × List Http.Exchange))),
        writers.get? entityType = some client.noted.writer →
        (writers.dispatch entityType record .deleted).Sends fun request =>
          request.bringsDocuments = false := by
  refine ⟨?routed, effect_dispatch_enrolled_of_absent record operation states,
    fun readers absent => ?unread, fun other id known known' =>
      dispatch_deleted_congr _ entityType known known', ?kept, ?quiet⟩
  case routed =>
    rintro front place rest rfl last
    exact effect_dispatch_enrolled record operation states last
  case unread =>
    have unknown := get?_ofList_of_absent absent
    exact ⟨readerFor_of_none unknown, fun store => effect_ofRegistries_of_none unknown _ store _⟩
  case kept =>
    intro writers index registered reached
    have removed : reached = _ := congrArg Prod.snd
      (effect_dispatch registered record .deleted index)
    rw [removed]
    exact MemoryIndex.get?_of_remove _ index
  case quiet =>
    intro σ client writers registered
    exact (client.sends_remove _).congr (effect_dispatch registered record .deleted)

/-- Two indexes in memory are registered, the first for two types and then the second for one of
them, which is spelled in another way. -/
def rerouted : List (EntityType × Bool) :=
  [(.ofTag "Group", false), (.ofTag " PACKAGE", false), (.ofTag "package ", true)]

theorem rerouted_eq : rerouted = [(⟨"group"⟩, false), (.package, false), (.package, true)] := by
  decide

/-- Both of them hold nothing, and the second one refuses a document. -/
def untouched : Bool → MemoryIndex × List IndexWrite
  | false => (.empty, [])
  | true => (MemoryIndex.empty.refuse "a", [])

/-- A dataset goes to the second index alone, which refuses it, a group goes to the first one, and
of two records with one id either may be removed. For a resource there is neither an index nor
anything to ask. -/
theorem dispatch_routed_of_rerouted :
    let registry := enrolled (fun _ => MemoryIndex.writer) rerouted
    let named := (Record.idOnly "a").insert "name" (.text "alpha")
    (registry.dispatch (.ofTag " Package ") named .created).effect untouched =
        (.error (MemoryIndex.refusal "a"), Function.update untouched true
          ((MemoryIndex.empty.refuse "a").noted (.insert "a"), [.insert named])) ∧
      (registry.dispatch (.ofTag "GROUP") named .changed).effect untouched =
        (.ok (), Function.update untouched false
          (⟨SortedMap.empty.insert "a" named, .empty, [], [.update "a" false]⟩,
            [.update named false])) ∧
      (registry.dispatch (.ofTag " Resource ") named .created).effect untouched =
        (.ok (), untouched) ∧
      (empty : Registry (IndexReader (Bool → MemoryIndex × List IndexWrite))).readerFor
        (.ofTag " Resource ") = .error (.unknownType "resource") ∧
      registry.dispatch .package named .deleted =
        registry.dispatch .package (.idOnly "a") .deleted := by
  intro registry named
  have dataset : EntityType.ofTag " Package " = .package := by decide
  have group : EntityType.ofTag "GROUP" = ⟨"group"⟩ := by decide
  have resource : EntityType.ofTag " Resource " = ⟨"resource"⟩ := by decide
  rw [dataset, group, resource]
  have routed := dispatch_routed (fun _ : Bool => MemoryIndex.writer) rerouted
  obtain ⟨datasets, -, -, removals, -⟩ := routed .package named .created untouched
  obtain ⟨groups, -⟩ := routed ⟨"group"⟩ named .changed untouched
  obtain ⟨-, absent, unread, -⟩ := routed ⟨"resource"⟩ named .created untouched
  refine ⟨?_, ?_, ?_, ?_, removals _ "a" rfl rfl⟩
  · exact datasets [(⟨"group"⟩, false), (.package, false)] true [] rerouted_eq nofun
  · exact groups [] false _ rerouted_eq (by decide)
  · exact absent (rerouted_eq ▸ by decide)
  · exact (unread [] nofun).1

end Registry

end CatalogSync
