/-
**Rebuilding a core, with everything noted.**

* `Ledger` — a core with its exchanges, and a store of record with its fetches. `Client.recording`
  is the engine for bulk operations on the two, whatever the core and the store are.
* `Attempt` — the fetch of a record, and the exchange that its document was posted in, if it was.
* **`attempt_of_reindex`** — reindexing a record is one sound attempt, and fails just if it does.
  `attempts_of_tryEach` is this for one record after the other.
* **`quiet_prepare`, `quiet_conclude`** — what a rebuild does before and after its loop brings no
  documents and fetches no records.
-/

import CatalogSync.Proofs.Bulk.Stages
import CatalogSync.Proofs.Solr.Writing

namespace CatalogSync

theorem isOk_iff {ε : Type} {result : Except ε Unit} : result.isOk = true ↔ result = .ok () := by
  cases result with
  | ok done => exact ⟨fun _ => rfl, fun _ => rfl⟩
  | error failure => exact ⟨fun known => absurd known Bool.false_ne_true, fun same => by cases same⟩

/-! ### Fetches -/

/-- A reference, and what the store had under it. -/
structure Fetch where
  reference : String
  answer : Except SearchError Record

/-- The store in front of which every fetch is noted, the latest last. -/
def RecordStore.noted {τ : Type} (store : RecordStore τ) : RecordStore (τ × List Fetch) where
  fetch entityType reference := fun state =>
    let outcome := store.fetch entityType reference state.1
    ⟨outcome.result, (outcome.state, state.2 ++ [⟨reference, outcome.result⟩]), outcome.events⟩
  enumerate entityType scope := (store.enumerate entityType scope).on .first
  summarize entityType id := (store.summarize entityType id).on .first
  commit := store.commit.on .first

/-! ### Ledgers -/

/-- A core with its exchanges, and a store of record with its fetches. -/
structure Ledger (σ τ : Type) where
  core : σ × List Http.Exchange
  records : τ × List Fetch

namespace Ledger

variable {σ τ : Type}

/-- The exchanges with the core, the latest last. -/
def exchanges (ledger : Ledger σ τ) : List Http.Exchange := ledger.core.2

/-- The fetches from the store, the latest last. -/
def fetches (ledger : Ledger σ τ) : List Fetch := ledger.records.2

/-- The core. -/
def corePart : Lens (Ledger σ τ) (σ × List Http.Exchange) where
  get := core
  set ledger core := { ledger with core }

/-- The store. -/
def recordPart : Lens (Ledger σ τ) (τ × List Fetch) where
  get := records
  set ledger records := { ledger with records }

end Ledger

namespace Solr

/-! ### Attempts -/

/-- The fetch of a record, and the exchange that its document was posted in, if it was. -/
structure Attempt where
  fetch : Fetch
  posted : Option Http.Exchange

namespace Attempt

/-- The id of the record. -/
def id (attempt : Attempt) : String := attempt.fetch.reference

/-- Whether the record could not be fetched, or its document was not acknowledged. -/
def failed (attempt : Attempt) : Bool :=
  !attempt.fetch.answer.isOk || !attempt.posted.any Http.Exchange.isAcknowledged

end Attempt

namespace Client

variable {σ τ : Type} (client : Client σ) (entityType : EntityType) (store : RecordStore τ)

/-- The engine for bulk operations on a core and a store of record, with everything noted. -/
def recording : Engine (Ledger σ τ) :=
  ⟨entityType, client.noted.writer.on Ledger.corePart, client.noted.reader.on Ledger.corePart,
    store.noted.on Ledger.recordPart⟩

/-- An attempt is sound if nothing but the document of the fetched record is posted. -/
structure Sound (attempt : Attempt) : Prop where
  posted : ∀ exchange ∈ attempt.posted, ∃ record id, attempt.fetch.answer = .ok record ∧
    record.id? = some id ∧ Brings (client.document record id) exchange.request

variable {client entityType store}

/-- What is posted in a sound attempt is a document. -/
theorem Sound.bringsDocuments {attempt : Attempt} (sound : client.Sound attempt)
    {exchange : Http.Exchange} (posted : exchange ∈ attempt.posted) :
    exchange.request.bringsDocuments = true := by
  obtain ⟨record, id, -, -, brings⟩ := sound.posted exchange posted
  unfold Http.Request.bringsDocuments
  rw [brings.method, brings.body]
  rfl

/-- A sound attempt fails just if its document was not acknowledged. -/
theorem Sound.failed_eq {attempt : Attempt} (sound : client.Sound attempt) :
    attempt.failed = !attempt.posted.any Http.Exchange.isAcknowledged := by
  unfold Attempt.failed
  cases posted : attempt.posted with
  | none => simp
  | some exchange =>
    obtain ⟨record, id, fetched, -⟩ := sound.posted exchange posted
    rw [fetched]
    rfl

/-- Reindexing a record is its fetch and, if there is one, the write of what was fetched. -/
theorem effect_reindex (deferCommit : Bool) (id : String) (start : Ledger σ τ) :
    ((client.recording entityType store).reindex deferCommit id).effect start =
      match (store.fetch entityType id).effect start.records.1 with
      | (.error failure, records) =>
        (.error failure, ⟨start.core, records, start.fetches ++ [⟨id, .error failure⟩]⟩)
      | (.ok record, records) =>
        let written := ((IndexWrite.update record deferCommit).perform
          client.noted.writer).effect start.core
        (written.1, ⟨written.2, records, start.fetches ++ [⟨id, .ok record⟩]⟩) := by
  have asked : ((client.recording entityType store).store.fetch entityType id).effect start =
      (((store.fetch entityType id).effect start.records.1).1,
        ⟨start.core, ((store.fetch entityType id).effect start.records.1).2,
          start.fetches ++ [⟨id, ((store.fetch entityType id).effect start.records.1).1⟩]⟩) := rfl
  rcases fetched : (store.fetch entityType id).effect start.records.1 with
    ⟨failure | record, records⟩
  · rw [fetched] at asked
    exact Action.effect_bind_of_error asked _
  · rw [fetched] at asked
    exact Action.effect_bind_of_ok asked _

/-- **Reindexing a record is one sound attempt, and fails just if it does.** -/
theorem attempt_of_reindex (deferCommit : Bool) (id : String) {start reached : Ledger σ τ}
    {result : Except SearchError Unit}
    (tried : ((client.recording entityType store).reindex deferCommit id).effect start =
      (result, reached)) :
    ∃ attempt : Attempt, client.Sound attempt ∧ attempt.id = id ∧
      reached.exchanges = start.exchanges ++ attempt.posted.toList ∧
      reached.fetches = start.fetches ++ [attempt.fetch] ∧ result.isOk = !attempt.failed := by
  rw [effect_reindex] at tried
  rcases fetched : (store.fetch entityType id).effect start.records.1 with
    ⟨failure | record, records⟩
  · rw [fetched] at tried
    cases tried
    exact ⟨⟨⟨id, .error failure⟩, none⟩, ⟨fun _ member => by cases member⟩, rfl,
      (List.append_nil _).symm, rfl, rfl⟩
  · rw [fetched] at tried
    cases tried
    obtain ⟨sent, accounts⟩ := client.accounts (.update record deferCommit) start.core
    have sound : client.Sound ⟨⟨id, .ok record⟩, sent⟩ := by
      refine ⟨fun exchange member => ?_⟩
      obtain ⟨name, known, brings⟩ := brings_of_order (accounts.ordered exchange member)
      exact ⟨record, name, rfl, known, brings⟩
    refine ⟨⟨⟨id, .ok record⟩, sent⟩, sound, rfl, accounts.noted, rfl, ?_⟩
    rw [sound.failed_eq, Bool.not_not, Bool.eq_iff_iff, Option.any_eq_true]
    exact isOk_iff.trans accounts.done

/-! ### One attempt after the other -/

variable (client) in
/-- What the attempts of a loop leave behind. -/
structure Made (start reached : Ledger σ τ) (trials : List Trial) (attempts : List Attempt) :
    Prop where
  sound : ∀ attempt ∈ attempts, client.Sound attempt
  exchanges : reached.exchanges = start.exchanges ++ attempts.filterMap Attempt.posted
  fetches : reached.fetches = start.fetches ++ attempts.map Attempt.fetch
  trials : trials.map (fun trial => (trial.id, trial.succeeded)) =
    attempts.map fun attempt => (attempt.id, !attempt.failed)

variable (client entityType store) in
/-- **Records tried one after the other are so many attempts.** -/
theorem attempts_of_tryEach (deferCommit : Bool) (ids : List String) (start : Ledger σ τ) :
    ∃ attempts, client.Made start
      ((client.recording entityType store).tryEach deferCommit ids start).2
      ((client.recording entityType store).tryEach deferCommit ids start).1 attempts := by
  induction ids generalizing start with
  | nil =>
    exact ⟨[], fun _ member => absurd member List.not_mem_nil, (List.append_nil _).symm,
      (List.append_nil _).symm, rfl⟩
  | cons id rest ih =>
    rcases tried : ((client.recording entityType store).reindex deferCommit id).effect start with
      ⟨result, reached⟩
    obtain ⟨attempt, sound, same, exchanges, fetches, succeeds⟩ :=
      attempt_of_reindex deferCommit id tried
    obtain ⟨attempts, made⟩ := ih reached
    unfold Engine.tryEach
    simp only [tried]
    refine ⟨attempt :: attempts, ?sound, ?exchanges, ?fetches, ?trials⟩
    case sound => exact List.forall_mem_cons.mpr ⟨sound, made.sound⟩
    case exchanges =>
      rw [made.exchanges, exchanges, List.append_assoc]
      cases posted : attempt.posted with
      | none => rw [List.filterMap_cons_none posted]; rfl
      | some exchange => rw [List.filterMap_cons_some posted]; rfl
    case fetches =>
      rw [made.fetches, fetches, List.append_assoc]
      rfl
    case trials =>
      rw [List.map_cons, List.map_cons, made.trials, same, ← succeeds]
      rfl

section Counts

variable {start reached : Ledger σ τ} {trials : List Trial} {attempts : List Attempt}

/-- Where no documents are brought, none are acknowledged. -/
theorem acknowledged_eq_nil {exchanges : List Http.Exchange}
    (quiet : ∀ exchange ∈ exchanges, exchange.request.bringsDocuments = false) :
    exchanges.filter (fun exchange =>
      exchange.request.bringsDocuments && exchange.isAcknowledged) = [] := by
  refine List.filter_eq_nil_iff.mpr fun exchange member => ?_
  rw [quiet exchange member, Bool.false_and]
  exact Bool.false_ne_true

/-- The attempts that did not fail are the documents that were acknowledged. -/
theorem length_acknowledged (sound : ∀ attempt ∈ attempts, client.Sound attempt) :
    ((attempts.filterMap Attempt.posted).filter fun exchange =>
        exchange.request.bringsDocuments && exchange.isAcknowledged).length =
      (attempts.filter fun attempt => !attempt.failed).length := by
  induction attempts with
  | nil => rfl
  | cons attempt rest ih =>
    obtain ⟨own, others⟩ := List.forall_mem_cons.mp sound
    have failed := own.failed_eq
    cases posted : attempt.posted with
    | none =>
      rw [posted] at failed
      rw [List.filterMap_cons_none posted, ih others,
        List.filter_cons_of_neg (by rw [failed]; simp)]
    | some exchange =>
      have document := own.bringsDocuments posted
      rw [posted, Option.any_some] at failed
      rw [List.filterMap_cons_some posted, List.filter_cons, List.filter_cons, document, failed,
        Bool.not_not, Bool.true_and]
      split
      · rw [List.length_cons, List.length_cons, ih others]
      · exact ih others

theorem Made.ids (made : client.Made start reached trials attempts) :
    attempts.map Attempt.id = trials.map Trial.id := by
  have same := congrArg (List.map Prod.fst) made.trials
  rw [List.map_map, List.map_map] at same
  exact same.symm

/-- A summary of the records that were tried is one of the attempts. -/
theorem Made.sums (made : client.Made start reached trials attempts) {summary : RebuildSummary}
    (sums : summary.Sums trials) :
    summary.total = attempts.length ∧
      summary.indexed = (attempts.filter fun attempt => !attempt.failed).length ∧
      summary.failedIds = (attempts.filter Attempt.failed).map Attempt.id := by
  have same := made.trials
  refine ⟨?total, ?indexed, ?failedIds⟩
  case total =>
    have lengths := congrArg List.length same
    rw [List.length_map, List.length_map] at lengths
    exact sums.total.trans lengths
  case indexed =>
    have kept := congrArg (fun pairs => (pairs.filter Prod.snd).length) same
    simp only [List.filter_map, List.length_map] at kept
    exact sums.indexed.trans kept
  case failedIds =>
    have kept := congrArg (fun pairs => (pairs.filter fun pair => !pair.2).map Prod.fst) same
    simp only [List.filter_map, List.map_map, Function.comp_def, Bool.not_not] at kept
    exact sums.failedIds.trans kept

end Counts

/-! ### Before and after the loop -/

/-- An action that brings no documents and fetches no records. -/
structure Quiet {α : Type} (action : Action (Ledger σ τ) α) : Prop where
  exchanges : action.Adds Ledger.exchanges fun exchange => exchange.request.bringsDocuments = false
  fetches : action.Adds Ledger.fetches fun _ => False

namespace Quiet

variable {α β : Type}

theorem pure (value : α) : Quiet (Pure.pure value : Action (Ledger σ τ) α) := ⟨.pure _, .pure _⟩

theorem bind {action : Action (Ledger σ τ) α} {next : α → Action (Ledger σ τ) β}
    (first : Quiet action) (rest : ∀ value, Quiet (next value)) : Quiet (action >>= next) :=
  ⟨first.exchanges.bind fun value => (rest value).exchanges,
    first.fetches.bind fun value => (rest value).fetches⟩

/-- What a quiet action leaves behind. -/
theorem left {action : Action (Ledger σ τ) α} (quiet : Quiet action) {start reached : Ledger σ τ}
    {result : Except SearchError α} (ran : action.effect start = (result, reached)) :
    ∃ made, reached.exchanges = start.exchanges ++ made ∧
      (∀ exchange ∈ made, exchange.request.bringsDocuments = false) ∧
      reached.fetches = start.fetches := by
  obtain ⟨made, exchanges, quietly⟩ := quiet.exchanges start
  obtain ⟨more, fetches, nothing⟩ := quiet.fetches start
  rw [ran] at exchanges fetches
  rw [List.eq_nil_iff_forall_not_mem.mpr nothing, List.append_nil] at fetches
  exact ⟨made, exchanges, quietly, fetches⟩

/-- A call on the core is quiet if what it sends brings no documents. -/
theorem on_core {action : Action (σ × List Http.Exchange) α}
    (sends : action.Sends fun request => request.bringsDocuments = false) :
    Quiet (action.on (Ledger.corePart : Lens (Ledger σ τ) _)) :=
  ⟨sends.on Ledger.corePart fun _ => rfl, .of_unchanged fun _ => rfl⟩

/-- A call on the store is quiet if it is no fetch. -/
theorem on_store (action : Action τ α) :
    Quiet ((action.on .first).on (Ledger.recordPart : Lens (Ledger σ τ) _)) :=
  ⟨.of_unchanged fun _ => rfl, .of_unchanged fun _ => rfl⟩

end Quiet

/-- A request that names documents by a filter brings none. -/
theorem bringsDocuments_of_filters {filter : String} (request : Http.Request)
    (filters : Filters filter request) : request.bringsDocuments = false := by
  unfold Http.Request.bringsDocuments
  cases filters with
  | asking method pair => rw [method]; rfl
  | removing method body => rw [body]; exact Bool.and_false _

variable (client entityType store) in
/-- **What a rebuild does before its loop brings no documents and fetches no records.** -/
theorem quiet_prepare (selector : Selector) (options : RebuildOptions) :
    Quiet ((client.recording entityType store).prepare selector options) := by
  have clears : Quiet (client.recording entityType store).index.clear :=
    .on_core (client.sendsFilters.clear.mono fun _ => bringsDocuments_of_filters _)
  have lists : Quiet ((client.recording entityType store).documents.ids none) :=
    .on_core ((client.sendsFilters.ids none).mono fun _ => bringsDocuments_of_filters _)
  have enumerates : Quiet ((client.recording entityType store).store.enumerate entityType
      .notDeleted) := .on_store _
  cases selector with
  | one reference => exact .pure _
  | many ids => exact .pure _
  | all =>
    refine enumerates.bind fun ids => ?_
    split
    · exact lists.bind fun _ => .pure _
    · split
      · exact clears.bind fun _ => .pure _
      · exact .pure _

variable (client entityType store) in
/-- **What a rebuild does after its loop brings no documents and fetches no records.** -/
theorem quiet_conclude (selector : Selector) (options : RebuildOptions) :
    Quiet ((client.recording entityType store).conclude selector options) := by
  have commits : Quiet (client.recording entityType store).index.commit :=
    .on_core (sends_postUpdate client _ _ fun request _ body => by
      unfold Http.Request.bringsDocuments
      rw [body]
      exact Bool.and_false _)
  have closes : Quiet (client.recording entityType store).store.commit := .on_store _
  refine Quiet.bind ?_ fun _ => closes
  unfold Engine.flush
  split
  · exact commits
  · exact .pure _

end Client

end Solr

end CatalogSync
