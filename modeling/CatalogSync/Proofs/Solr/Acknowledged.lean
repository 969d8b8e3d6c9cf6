/-
**No write that the engine did not acknowledge is reported as done.**

* `Client.Reports` — what a rebuild reports, and the fetches and exchanges that it is based on.
* **`reports_of_ok`** — a rebuild of given or of all records that comes to its end reports as
  indexed just as many documents as were acknowledged, and as failed, in their order, the records
  that could not be fetched or whose document was not acknowledged.
* **`acknowledged_of_dispatch`** — a change is dispatched only if its request was acknowledged.
* **`writes_acknowledged`** — this and, on single writes, `accounts`. The notes that it speaks of
  are taken along the way and make no difference.
-/

import CatalogSync.Proofs.Solr.Erasure

namespace CatalogSync.Solr.Client

variable {σ τ : Type} (client : Client σ)

/-- What a rebuild that worked on a list of ids reports, and what it is based on: an attempt at each
of the ids, one after the other. -/
structure Reports (work : List String) (attempts : List Attempt) (start finish : Ledger σ τ)
    (summary : RebuildSummary) : Prop where
  ids : attempts.map Attempt.id = work
  sound : ∀ attempt ∈ attempts, client.Sound attempt
  fetches : finish.fetches = start.fetches ++ attempts.map Attempt.fetch
  /-- No documents are posted but those of the attempts. -/
  exchanges : ∃ opening closing, finish.exchanges = start.exchanges ++
      (opening ++ attempts.filterMap Attempt.posted ++ closing) ∧
    ∀ exchange ∈ opening ++ closing, exchange.request.bringsDocuments = false
  total : summary.total = work.length
  indexed : ∃ made, finish.exchanges = start.exchanges ++ made ∧
    summary.indexed = (made.filter fun exchange =>
      exchange.request.bringsDocuments && exchange.isAcknowledged).length
  failedIds : summary.failedIds = (attempts.filter Attempt.failed).map Attempt.id

variable {client} {entityType : EntityType} {store : RecordStore τ} {selector : Selector}
  {options : RebuildOptions}

/-- **A rebuild reports as indexed what was acknowledged, and as failed what was not.** -/
theorem reports_of_ok (bulk : selector.isBulk = true) {start finish : Ledger σ τ}
    {summary : RebuildSummary}
    (ended : ((client.recording entityType store).rebuild selector options).effect start =
      (.ok summary, finish)) :
    ∃ work prepared attempts,
      ((client.recording entityType store).prepare selector options).effect start =
        (.ok work, prepared) ∧
      client.Reports work attempts start finish summary := by
  obtain ⟨work, prepared, found, sums, concluded⟩ := Engine.rebuild_of_ok bulk ended
  obtain ⟨attempts, made⟩ :=
    attempts_of_tryEach client entityType store (selector.defers options) work prepared
  obtain ⟨opening, opened, before, unfetched⟩ :=
    (quiet_prepare client entityType store selector options).left found
  obtain ⟨closing, closed, after, unfetched'⟩ :=
    (quiet_conclude client entityType store selector options).left concluded
  obtain ⟨total, indexed, failedIds⟩ := made.sums sums
  have ids : attempts.map Attempt.id = work := made.ids.trans (Engine.ids_tryEach _ _ _ _)
  have exchanges : finish.exchanges = start.exchanges ++
      (opening ++ attempts.filterMap Attempt.posted ++ closing) := by
    rw [closed, made.exchanges, opened]
    simp only [List.append_assoc]
  refine ⟨work, prepared, attempts, found, ids, made.sound, ?fetches,
    ⟨opening, closing, exchanges, ?quiet⟩, ?total, ⟨_, exchanges, ?indexed⟩, failedIds⟩
  case fetches => rw [unfetched', made.fetches, unfetched]
  case quiet => exact List.forall_mem_append.mpr ⟨before, after⟩
  case total => rw [total, ← ids, List.length_map]
  case indexed =>
    rw [List.filter_append, List.filter_append, acknowledged_eq_nil before,
      acknowledged_eq_nil after, List.nil_append, List.append_nil, length_acknowledged made.sound]
    exact indexed

/-- **A change is dispatched only if its request was acknowledged.** -/
theorem acknowledged_of_dispatch {registry : Registry (IndexWriter (σ × List Http.Exchange))}
    (registered : registry.get? entityType = some client.noted.writer) {record : Record}
    {operation : ChangeOperation} {start reached : σ × List Http.Exchange}
    (ended : (registry.dispatch entityType record operation).effect start = (.ok (), reached)) :
    ∃ exchange, reached.2 = start.2 ++ [exchange] ∧ exchange.request.method = .post ∧
      exchange.isAcknowledged = true := by
  rw [Registry.effect_dispatch registered, IndexWrite.applyChange_eq_perform] at ended
  obtain ⟨sent, accounts⟩ := client.accounts (.ofChange record operation) start
  rw [ended] at accounts
  obtain ⟨exchange, member, acknowledged⟩ := accounts.done.mp rfl
  refine ⟨exchange, ?_, accounts.posts exchange member, acknowledged⟩
  rw [accounts.noted, Option.mem_def.mp member]
  rfl

/-- **No write that the engine did not acknowledge is reported as done.** A write sends one request
at most, and is done just if it was answered with success. A rebuild that comes to its end, and the
dispatch of a change that does, come to the same with notes taken, and these say what was sent. -/
theorem writes_acknowledged (client : Client σ) :
    (∀ write start, ∃ sent,
      client.Accounts write start ((write.perform client.noted.writer).effect start) sent) ∧
    (∀ (τ : Type) (store : RecordStore τ) (entityType : EntityType) (selector : Selector)
        (options : RebuildOptions) (start : Ledger σ τ) (summary : RebuildSummary) (finish : σ × τ),
      selector.isBulk = true →
      ((client.engine entityType store).rebuild selector options).effect start.erase =
        (.ok summary, finish) →
      ∃ ledger work prepared attempts,
        ((client.recording entityType store).rebuild selector options).effect start =
          (.ok summary, ledger) ∧ ledger.erase = finish ∧
        ((client.recording entityType store).prepare selector options).effect start =
          (.ok work, prepared) ∧
        client.Reports work attempts start ledger summary) ∧
    ∀ (registry : Registry (IndexWriter σ)) (entityType : EntityType) (record : Record)
        (operation : ChangeOperation) (core reached : σ),
      registry.get? entityType = some client.writer →
      (registry.dispatch entityType record operation).effect core = (.ok (), reached) →
      ∃ exchange,
        ((Registry.empty.register entityType client.noted.writer).dispatch entityType record
          operation).effect (core, []) = (.ok (), reached, [exchange]) ∧
        exchange.request.method = .post ∧ exchange.isAcknowledged = true := by
  refine ⟨client.accounts, ?rebuilds, ?dispatches⟩
  case rebuilds =>
    intro τ store entityType selector options start summary finish bulk ended
    have same := (erases_recording client entityType store).rebuild options selector start
    rw [ended] at same
    rcases recorded : ((client.recording entityType store).rebuild selector options).effect start
      with ⟨result, ledger⟩
    rw [recorded] at same
    cases same
    obtain ⟨work, prepared, attempts, found, reports⟩ := reports_of_ok bulk recorded
    exact ⟨ledger, work, prepared, attempts, rfl, rfl, found, reports⟩
  case dispatches =>
    intro registry entityType record operation core reached registered ended
    have registered' : (Registry.empty.register entityType client.noted.writer).get? entityType =
        some client.noted.writer := by
      rw [Registry.get?_register, if_pos rfl]
    have same := erases_dispatch client registered' registered record operation (core, [])
    rw [ended] at same
    rcases recorded : ((Registry.empty.register entityType client.noted.writer).dispatch entityType
      record operation).effect (core, []) with ⟨result, left, exchanges⟩
    rw [recorded] at same
    cases same
    obtain ⟨exchange, noted, method, acknowledged⟩ := acknowledged_of_dispatch registered' recorded
    obtain rfl : exchanges = [exchange] := noted
    exact ⟨exchange, rfl, method, acknowledged⟩

/-! ### A core that fails in every way -/

/-- A core whose replies are laid out beforehand. -/
def scriptedCore : Client Http.Script :=
  ⟨(Settings.ofUrl "http://[::1]/c").withSiteId "s", .package, .scripted⟩

/-- A core that accepts the first write, refuses the second one and drops the third one, beside the
store with the four datasets. -/
def failingCore : Ledger Http.Script MemoryStore :=
  ⟨(⟨[some ⟨200, .text "", true⟩, some ⟨503, .text "", true⟩, none], []⟩, []),
    (Workbench.troubled.store, [])⟩

/-- The four datasets. -/
def datasets : Selector := .many ["a", "b", "c", "d"]

/-- Going on after failures, and not telling of every record. -/
def goingOn : RebuildOptions := ⟨false, true, false, false, true⟩

/-- The registry in which the core is registered for datasets. -/
def scriptedRegistry : Registry (IndexWriter Http.Script) :=
  Registry.empty.register .package scriptedCore.writer

/-- The first dataset is indexed; the second one is refused, the third one cannot be fetched, and
there is no reply to the last one. The deletion of a dataset is dispatched. -/
theorem writes_acknowledged_of_failing :
    (∃ summary finish ledger work prepared attempts,
      ((scriptedCore.engine .package MemoryStore.store).rebuild datasets goingOn).effect
        failingCore.erase = (.ok summary, finish) ∧
      (summary.indexed, summary.failedIds) = (1, ["b", "c", "d"]) ∧
      ledger.erase = finish ∧
      ((scriptedCore.recording .package MemoryStore.store).prepare datasets goingOn).effect
        failingCore = (.ok work, prepared) ∧
      scriptedCore.Reports work attempts failingCore ledger summary) ∧
    scriptedRegistry.get? .package = some scriptedCore.writer ∧
    ∃ (exchange : Http.Exchange) (reached : Http.Script),
      (scriptedRegistry.dispatch .package (.idOnly "a") .deleted).effect ⟨[], []⟩ =
        (.ok (), reached) ∧
      exchange.request.method = .post ∧ exchange.isAcknowledged = true := by
  obtain ⟨-, rebuilds, dispatches⟩ := writes_acknowledged scriptedCore
  have registered : scriptedRegistry.get? .package = some scriptedCore.writer := by
    unfold scriptedRegistry
    rw [Registry.get?_register, if_pos rfl]
  refine ⟨?rebuilt, registered, ?dispatched⟩
  case rebuilt =>
    have known : (((scriptedCore.engine .package MemoryStore.store).rebuild datasets
        goingOn).effect failingCore.erase).1.toOption.map
          (fun summary => (summary.indexed, summary.failedIds)) = some (1, ["b", "c", "d"]) := by
      decide +kernel
    rcases ended : ((scriptedCore.engine .package MemoryStore.store).rebuild datasets
      goingOn).effect failingCore.erase with ⟨failure | summary, finish⟩
    · rw [ended] at known
      cases known
    · rw [ended] at known
      obtain ⟨ledger, work, prepared, attempts, -, erased, found, reports⟩ := rebuilds MemoryStore
        MemoryStore.store .package datasets goingOn failingCore summary finish rfl ended
      exact ⟨summary, finish, ledger, work, prepared, attempts, rfl, Option.some.inj known, erased,
        found, reports⟩
  case dispatched =>
    have known : ((scriptedRegistry.dispatch .package (.idOnly "a") .deleted).effect
        ⟨[], []⟩).1.isOk = true := by decide +kernel
    rcases ended : (scriptedRegistry.dispatch .package (.idOnly "a") .deleted).effect ⟨[], []⟩ with
      ⟨failure | done, reached⟩
    · rw [ended] at known
      cases known
    · obtain ⟨exchange, -, method, acknowledged⟩ :=
        dispatches scriptedRegistry .package (.idOnly "a") .deleted _ reached registered ended
      exact ⟨exchange, reached, rfl, method, acknowledged⟩

end CatalogSync.Solr.Client
