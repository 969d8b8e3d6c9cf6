/-
**What each command touches.**

The surroundings are scripts of replies and of results, which note the requests and the statements.

* `Scripts.surroundings` — such surroundings, with or without an obstacle to carrying requests, and
  `Scripts.requests` — what was sent in them.
* `effect_run_on_index`, `effect_run_on_store`, `effect_run_schema` — what a command does once the
  synchroniser is put together; `state_run_of_obstacle` — nothing, if it cannot be.
* `Solr.Client.Looks` — a request that only looks at a core. By `leadsApart_of_looks` its path is
  not that of the update handler, if the address of the core has no query and no fragment.
* `adds_run_looking`, `adds_run_on_index`, `adds_run_clear` — what commands that only look, commands
  that need no store, and clearing one dataset add to a log.
* `run_of_database` — the address of the database has no part in commands that need no store.
* **`execute_touches`** — no command touches more than it should.
-/

import CatalogSync.Command.Execution
import CatalogSync.Proofs.Schema.Gate
import CatalogSync.Proofs.Solr.Scope
import CatalogSync.Proofs.Url.Path

namespace CatalogSync

/-! ### Scripts -/

/-- The core that settings describe, seen from datasets, for whoever carries its requests. -/
def Settings.core {σ : Type} (settings : Settings) (transport : Http.Transport σ) :
    Solr.Client σ :=
  ⟨settings.solr, .package, transport⟩

/-- The engine for datasets on a core and a store of record. -/
def Solr.Client.datasetEngine {σ : Type} (client : Solr.Client σ) (store : RecordStore σ) :
    Engine σ :=
  ⟨.package, client.writer, client.reader, store⟩

/-- The replies and the results that are laid out, and what was sent for them. -/
abbrev Scripts : Type := Http.Script × Sql.Script

namespace Scripts

/-- Whoever carries requests by the script of replies. -/
def transport : Http.Transport Scripts := Http.Transport.scripted.on .first

/-- The surroundings that follow the scripts, unless an obstacle keeps requests from being carried.
-/
def surroundings (obstacle : Option String) : Surroundings Scripts :=
  { Surroundings.scripted .first .second with obstacle := obstacle }

/-- The requests that were sent, the latest last. -/
def requests (scripts : Scripts) : List Http.Request := scripts.1.sent.reverse

/-- Only what is sent is noted. -/
theorem adds_requests {request : Http.Request} {test : Http.Request → Prop}
    (passes : test request) : transport.Adds request requests test := by
  rintro ⟨⟨replies, sent⟩, sql⟩
  refine ⟨[request], ?_, fun other member => List.mem_singleton.mp member ▸ passes⟩
  cases replies with
  | nil => exact List.reverse_cons
  | cons reply rest => exact List.reverse_cons

/-- No request has anything to do with the database. -/
theorem adds_nothing (request : Http.Request) :
    transport.Adds request (fun scripts => [scripts.2]) fun _ => False :=
  fun _ => ⟨[], rfl, nofun⟩

/-- No statement has anything to do with the core. -/
theorem requests_execute {obstacle : Option String} {url : String} {session : Sql.Session Scripts}
    (connected : (surroundings obstacle).connect url = .ok session) (statement : Sql.Statement)
    (scripts : Scripts) : requests (session.execute statement scripts).2 = requests scripts := by
  unfold surroundings Surroundings.scripted Surroundings.connecting at connected
  simp only at connected
  cases located : Sql.Location.read url with
  | error problem =>
    rw [located] at connected
    cases connected
  | ok location =>
    rw [located] at connected
    cases connected
    rfl

end Scripts

/-! ### What commands do -/

namespace Command

section Run

variable {σ : Type} {surroundings : Surroundings σ} (settings : Settings)
  (files : String → Except String ByteArray) (state : σ)

/-- Where no request can be handed over, a command does nothing. -/
theorem state_run_of_obstacle {reason : String} (obstructed : surroundings.obstacle = some reason)
    (command : Command) : ((command.run surroundings settings files).effect state).2 = state := by
  obtain ⟨transport, obstacle, connect⟩ := surroundings
  obtain rfl : obstacle = some reason := obstructed
  cases command with
  | checkSchema path => rfl
  | operate operation =>
    unfold run Synchronizer.full
    cases reads : operation.readsStore with
    | false =>
      simp only [reads]
      rfl
    | true =>
      simp only [reads]
      cases settings.databaseUrl with
      | none => rfl
      | some url => rfl

/-- A command that needs the store does nothing without its address. -/
theorem effect_run_unset {operation : Operation} (reads : operation.readsStore = true)
    (unset : settings.databaseUrl = none) :
    ((Command.operate operation).run surroundings settings files).effect state =
      (.ok (.error (.config "DATABASE_URL is not set")), state) := by
  unfold run Synchronizer.full
  simp only [reads, unset]
  rfl

section Carried

variable (carried : surroundings.obstacle = none)
include carried

theorem effect_run_on_index {operation : Operation} (reads : operation.readsStore = false) :
    ((Command.operate operation).run surroundings settings files).effect state =
      (operation.perform ((settings.core surroundings.transport).datasetEngine .detached) >>=
        fun text => pure (.ok text)).effect state := by
  obtain ⟨transport, obstacle, connect⟩ := surroundings
  obtain rfl : obstacle = none := carried
  unfold run
  simp only [reads]
  rfl

theorem effect_run_on_store {operation : Operation} (reads : operation.readsStore = true) :
    ((Command.operate operation).run surroundings settings files).effect state =
      match settings.databaseUrl with
      | none => (.ok (.error (.config "DATABASE_URL is not set")), state)
      | some url =>
        match surroundings.connect url with
        | .error failure =>
          (.ok (.error (.config ("Failed to connect to database: " ++ failure.message))), state)
        | .ok session =>
          (operation.perform
            ((settings.core surroundings.transport).datasetEngine session.store) >>=
              fun text => pure (.ok text)).effect state := by
  obtain ⟨transport, obstacle, connect⟩ := surroundings
  obtain rfl : obstacle = none := carried
  unfold run Synchronizer.full
  simp only [reads]
  cases settings.databaseUrl with
  | none => rfl
  | some url =>
    simp only
    cases connect url with
    | error failure => rfl
    | ok session => rfl

theorem effect_run_schema (path : Option String) :
    ((Command.checkSchema path).run surroundings settings files).effect state =
      (performSchemaCheck (settings.core surroundings.transport).schema
        (path.map fun path => ⟨path, files path⟩) >>= fun text =>
          pure (.ok text)).effect state := by
  obtain ⟨transport, obstacle, connect⟩ := surroundings
  obtain rfl : obstacle = none := carried
  rfl

end Carried

end Run

end Command

/-! ### Looking at a core -/

theorem SchemaGate.adds_check {σ ε : Type} {log : σ → List ε} {test : ε → Prop}
    {source : SchemaSource σ} (available : source.isAvailable.Adds log test)
    (fetches : ∀ location, (source.fetchSchema location).Adds log test)
    (file : Option LocalFile) : (check source file).Adds log test := by
  have accepts (version : SchemaVersion) : (accept version : Action σ _).Adds log test :=
    (Action.Adds.tell _ _ _).bind fun _ => .pure _
  have remote : (fetchRemote source).Adds log test := by
    refine (fetches .managed).attempt.bind fun answer => ?_
    cases answer with
    | ok content => exact .pure _
    | error failure =>
      simp only
      split
      · exact (Action.Adds.tell _ _ _).bind fun _ => fetches .classic
      · exact .fail _
  cases file with
  | some file =>
    unfold check checkWith
    simp only
    split
    · exact .fail _
    · exact (Action.Adds.ofExcept _).bind accepts
  | none =>
    refine available.bind fun isThere => ?_
    split
    · exact remote.bind fun _ => (Action.Adds.ofExcept _).bind accepts
    · exact (Action.Adds.tell _ _ _).bind fun _ => .pure _

namespace Solr.Client

variable {σ ε : Type} {log : σ → List ε} {test : ε → Prop}

/-- The places below the address of a core at which it is only looked at, with the segments that
they lead to. -/
def lookedAt : List (String × List String) :=
  [("/select", ["select"]), ("/admin/ping", ["admin", "ping"]),
    (SchemaLocation.managed.offset, ["schema"]),
    (SchemaLocation.classic.offset, ["admin", "file", ""])]

/-- A request that only looks at the core with a given address. -/
structure Looks (base : String) (request : Http.Request) : Prop where
  place : ∃ place ∈ lookedAt, ∃ pairs, Meant .get (base ++ place.1) pairs none request
  web : request.address.isHttp = true

/-- A request that leads from the root of a core to where it is only looked at, and not to where the
update handler is. -/
structure LeadsApart (base : String) (root : List String) (request : Http.Request) : Prop where
  path : ∃ place ∈ lookedAt, request.address.path = .segments (root ++ place.2)
  apart : ∀ update, Url.Address.parse (base ++ "/update") = .ok update →
    update.path = .segments (root ++ ["update"]) ∧ request.address.path ≠ update.path

/-- **Requests that only look at a core lead apart from its update handler**, if its address has no
query and no fragment. -/
theorem leadsApart_of_looks {base : String} {core : Url.Address}
    (parsed : Url.Address.parse base = .ok core) (noQuery : core.query = none)
    (noFragment : core.fragment = none) :
    ∃ root, ∀ request, Looks base request → LeadsApart base root request := by
  have leads : ∀ place ∈ lookedAt, Url.Address.Leads place.1 place.2 := by decide
  by_cases web : core.isHttp = true
  · obtain ⟨root, path⟩ := Url.Address.path_append parsed web noQuery noFragment
    refine ⟨root, fun request ⟨⟨place, known, pairs, meant⟩, _⟩ => ?_⟩
    obtain ⟨handler, located, -, -, -, same, -⟩ := meant.address
    have here : request.address.path = .segments (root ++ place.2) :=
      same.trans (path _ _ handler (leads place known) located)
    refine ⟨⟨place, known, here⟩, fun update located => ?_⟩
    have there := path _ ["update"] update (by decide) located
    have others : ∀ place ∈ lookedAt, place.2 ≠ ["update"] := by decide
    refine ⟨there, fun equal => others place known ?_⟩
    rw [here, there] at equal
    exact List.append_cancel_left (Url.Path.segments.inj equal)
  · refine ⟨[], fun request ⟨⟨place, known, pairs, meant⟩, sent⟩ => absurd ?_ web⟩
    obtain ⟨handler, located, scheme, -⟩ := meant.address
    unfold Url.Address.isHttp at sent ⊢
    rw [← Url.Address.scheme_append parsed (leads place known) located, ← scheme]
    exact sent

variable {client : Client σ} (looks : ∀ request, Looks client.settings.baseUrl request →
  client.transport.Adds request log test)
include looks

theorem adding_of_looks {offset : String} (known : offset ∈ lookedAt.map Prod.fst)
    (pairs : List (String × String)) :
    client.Adding .get (client.settings.baseUrl ++ offset) pairs none log test := by
  obtain ⟨place, among, rfl⟩ := List.mem_map.mp known
  exact fun request meant web => looks request ⟨⟨place, among, pairs, meant⟩, web⟩

theorem adds_ids (limit : Option Nat) : (client.reader.ids limit).Adds log test :=
  adds_listing client (fun _ _ _ _ => adding_of_looks looks (by decide) _) limit

theorem adds_find (reference : String) : (client.reader.find reference).Adds log test :=
  (adds_select client (adding_of_looks looks (by decide) _)).bind fun _ => .pure _

theorem adds_fetch (location : SchemaLocation) :
    (client.schema.fetchSchema location).Adds log test := by
  refine adds_fetchSchema client location (adding_of_looks looks ?_ _)
  cases location
  · decide
  · decide

theorem adds_performSchemaCheck (file : Option LocalFile) :
    (Command.performSchemaCheck client.schema file).Adds log test := by
  have available : client.schema.isAvailable.Adds log test := by
    simp only [schema]
    exact adds_isAvailable client (adding_of_looks looks (by decide) _)
  refine (SchemaGate.adds_check available (adds_fetch looks) file).bind fun found => ?_
  cases found with
  | compatible version => exact .pure _
  | notApplicable => exact (Action.Adds.tell _ _ _).bind fun _ => .pure _

end Solr.Client

/-! ### Looking at a store -/

section Bulk

variable {σ ε : Type} {log : σ → List ε} {test : ε → Prop} {engine : Engine σ}

theorem Engine.adds_summarizeEach
    (summarizes : ∀ id, (engine.store.summarize engine.entityType id).Adds log test)
    (ids : List String) : (engine.summarizeEach ids).Adds log test := by
  induction ids with
  | nil => exact .pure _
  | cons id rest ih =>
    refine (summarizes id).bind fun found => ?_
    cases found with
    | none => exact (Action.Adds.tell _ _ _).bind fun _ => ih
    | some summary => exact ih.bind fun _ => .pure _

theorem Engine.adds_check
    (enumerates : (engine.store.enumerate engine.entityType .active).Adds log test)
    (summarizes : ∀ id, (engine.store.summarize engine.entityType id).Adds log test)
    (lists : (engine.documents.ids none).Adds log test) : engine.check.Adds log test :=
  enumerates.bind fun _ => (lists.bind fun _ => .pure _).bind fun missing =>
    (adds_summarizeEach summarizes missing).bind fun _ =>
      (Action.Adds.tell _ _ _).bind fun _ => .pure _

namespace Sql.Session

variable {session : Session σ}
  (apart : ∀ statement state, log (session.execute statement state).2 = log state)
include apart

theorem adds_rows (statement : Statement) : (session.rows statement).Adds log test := by
  refine .of_unchanged fun state => ?_
  have same := apart statement state
  simp only [rows, Action.effect]
  generalize session.execute statement state = answer at same ⊢
  obtain ⟨refusal | rows, reached⟩ := answer
  · exact same
  · exact same

theorem adds_enumerate (scope : IdScope) :
    (session.store.enumerate .package scope).Adds log test :=
  (Action.Adds.pure ()).bind fun _ => (adds_rows apart _).bind fun _ => .ofExcept _

theorem adds_summarize (id : String) : (session.store.summarize .package id).Adds log test := by
  refine (Action.Adds.pure ()).bind fun _ => (adds_rows apart _).bind fun rows => ?_
  split
  · exact .pure _
  · exact (Action.Adds.ofExcept _).bind fun _ => .pure _

end Sql.Session

end Bulk

/-! ### Operations -/

namespace Operation

variable {σ ε : Type} {log : σ → List ε} {test : ε → Prop} {client : Solr.Client σ}

theorem adds_display {reference : String} (finds : (client.reader.find reference).Adds log test)
    (store : RecordStore σ) :
    ((Operation.display reference).perform (client.datasetEngine store)).Adds log test := by
  refine Action.Adds.bind finds fun found => ?_
  cases found with
  | some record => exact .pure _
  | none => exact .fail _

theorem adds_clear {reference : String}
    (adding : client.Adding .post (client.settings.baseUrl ++ "/update") [("commit", "true")]
      (some (Solr.Client.deletion (Solr.referenceFilter client.scope reference))) log test)
    (store : RecordStore σ) :
    ((Operation.clear (some reference)).perform (client.datasetEngine store)).Adds log test := by
  have posts : (client.postUpdate (Solr.Client.deletion
      (Solr.referenceFilter client.scope reference)) true).Adds log test :=
    Solr.Client.adds_postUpdate client adding
  have removes : (client.writer.remove (.idOnly reference)).Adds log test := by
    simp only [Solr.Client.writer, Record.id?_idOnly]
    exact posts.bind fun _ => .tell _ _ _
  exact Action.Adds.bind (removes.bind fun _ => .tell _ _ _) fun _ => .pure _

/-- Without a store, an operation does nothing but carry requests. -/
theorem adds_perform (adds : ∀ request, client.transport.Adds request log test)
    {operation : Operation} (reads : operation.readsStore = false) :
    (operation.perform (client.datasetEngine .detached)).Adds log test := by
  have adding (method : Http.Method) (url : String) (pairs : List (String × String))
      (body : Option Value) : client.Adding method url pairs body log test :=
    fun request _ _ => adds request
  cases operation with
  | rebuild selector options => cases reads
  | check => cases reads
  | commit =>
    have commits : client.writer.commit.Adds log test :=
      Solr.Client.adds_postUpdate client (adding _ _ _ _)
    exact Action.Adds.bind (commits.bind fun _ => .tell _ _ _) fun _ => .pure _
  | display reference =>
    exact adds_display (Solr.Client.adds_find (fun request _ => adds request) reference) _
  | clear reference =>
    cases reference with
    | some reference => exact adds_clear (adding _ _ _ _) _
    | none =>
      have clears : client.writer.clear.Adds log test :=
        (Solr.Client.adds_postUpdate client (adding _ _ _ _)).bind fun _ => .tell _ _ _
      exact Action.Adds.bind (clears.bind fun _ => .tell _ _ _) fun _ => .pure _

end Operation

namespace Command

/-- Whether a command needs the store of record. -/
def readsStore : Command → Bool
  | .operate operation => operation.readsStore
  | .checkSchema _ => false

/-- Whether a command only looks at the index or at its schema. -/
def onlyLooks : Command → Bool
  | .operate .check | .operate (.display _) | .checkSchema _ => true
  | .operate (.rebuild ..) | .operate .commit | .operate (.clear _) => false

/-! ### The address of the database -/

/-- The address of the database has no part in commands that need no store. -/
theorem run_of_database {σ : Type} {command : Command} (reads : command.readsStore = false)
    (surroundings : Surroundings σ) (settings : Settings) (databaseUrl : Option String) :
    command.run surroundings { settings with databaseUrl } = command.run surroundings settings := by
  funext files
  cases command with
  | checkSchema path => rfl
  | operate operation =>
    have plain : operation.readsStore = false := reads
    unfold run
    simp only [plain]
    rfl

/-- Nor in any other setting. -/
theorem load_of_database {lookup other : String → Option String}
    (alike : ∀ name, name ≠ "DATABASE_URL" → other name = lookup name) :
    Settings.load other =
      ({ (Settings.load lookup).1 with databaseUrl := Settings.given other "DATABASE_URL" },
        (Settings.load lookup).2) := by
  have same (name : String) (apart : name ≠ "DATABASE_URL") :
      Settings.given other name = Settings.given lookup name := by
    unfold Settings.given
    rw [alike name apart]
  unfold Settings.load
  simp only [same "SOLR_URL" (by decide), same "SOLR_USER" (by decide),
    same "SOLR_PASSWORD" (by decide), same "SOLR_TIMEOUT_SECS" (by decide),
    same "CATALOG_SITE_ID" (by decide), same "SEARCH_ROWS_MAX" (by decide),
    same "SEARCH_AUTOMATIC_INDEXING" (by decide)]

/-- A command that needs no store does the same in surroundings where only this address differs. -/
theorem run_of_alike {σ : Type} {command : Command} (reads : command.readsStore = false)
    (surroundings : Surroundings σ) {lookup other : String → Option String}
    (alike : ∀ name, name ≠ "DATABASE_URL" → other name = lookup name)
    (files : String → Except String ByteArray) :
    command.run surroundings (Settings.load other).1 files =
      command.run surroundings (Settings.load lookup).1 files := by
  rw [load_of_database alike]
  exact congrFun (run_of_database reads surroundings _ _) files

/-! ### The main statement -/

theorem execute_eq {σ : Type} {arguments : List String} {command : Command}
    (parsed : read arguments = .ok command) (surroundings : Surroundings σ)
    (lookup : String → Option String) (files : String → Except String ByteArray) (state : σ) :
    execute surroundings lookup files arguments state =
      (reportOf ((command.run surroundings (Settings.load lookup).1 files).effect state).1,
        ((command.run surroundings (Settings.load lookup).1 files).effect state).2) := by
  unfold execute
  rw [parsed]
  rfl

section Touches

variable (command : Command) (obstacle : Option String) (settings : Settings)
  (files : String → Except String ByteArray)

/-- Nothing is added where nobody carries requests, so that it is enough to look at the case where
someone does. -/
theorem adds_run_of_carried {α : Type} {log : Scripts → List α} {test : α → Prop}
    (adds : (command.run (Scripts.surroundings none) settings files).Adds log test) :
    (command.run (Scripts.surroundings obstacle) settings files).Adds log test := by
  cases obstacle with
  | none => exact adds
  | some reason =>
    exact .of_unchanged fun state =>
      congrArg log (state_run_of_obstacle settings files state rfl command)

theorem adds_run_looking (looks : command.onlyLooks = true) :
    (command.run (Scripts.surroundings obstacle) settings files).Adds Scripts.requests
      (Solr.Client.Looks settings.solr.baseUrl) := by
  refine adds_run_of_carried command obstacle settings files ?_
  have carried (request : Http.Request)
      (here : Solr.Client.Looks (settings.core Scripts.transport).settings.baseUrl request) :
      (settings.core Scripts.transport).transport.Adds request Scripts.requests
        (Solr.Client.Looks settings.solr.baseUrl) := Scripts.adds_requests here
  cases command with
  | checkSchema path =>
    refine .congr (effect_run_schema settings files · rfl path) ?_
    exact (Solr.Client.adds_performSchemaCheck carried _).bind fun _ => .pure _
  | operate operation =>
    cases operation with
    | display reference =>
      refine .congr (effect_run_on_index settings files · rfl rfl) ?_
      exact (Operation.adds_display (Solr.Client.adds_find carried reference) _).bind
        fun _ => .pure _
    | check =>
      intro state
      rw [effect_run_on_store settings files state rfl rfl]
      cases settings.databaseUrl with
      | none => exact Action.Adds.pure _ state
      | some url =>
        simp only
        cases connected : (Scripts.surroundings none).connect url with
        | error failure => exact Action.Adds.pure _ state
        | ok session =>
          have apart := Scripts.requests_execute connected
          let engine := (settings.core Scripts.transport).datasetEngine session.store
          have checks : engine.check.Adds Scripts.requests
              (Solr.Client.Looks settings.solr.baseUrl) :=
            Engine.adds_check (Sql.Session.adds_enumerate apart _)
              (Sql.Session.adds_summarize apart) (Solr.Client.adds_ids carried none)
          have whole : (Operation.check.perform engine >>= fun text =>
              (pure (.ok text) : Action Scripts (Except SyncError String))).Adds Scripts.requests
                (Solr.Client.Looks settings.solr.baseUrl) :=
            (checks.bind fun _ => .pure _).bind fun _ => .pure _
          exact whole state
    | rebuild selector options => cases looks
    | commit => cases looks
    | clear reference => cases looks

theorem adds_run_on_index (reads : command.readsStore = false) :
    (command.run (Scripts.surroundings obstacle) settings files).Adds (fun scripts => [scripts.2])
      fun _ => False := by
  refine adds_run_of_carried command obstacle settings files ?_
  have carried (request : Http.Request) :
      (settings.core Scripts.transport).transport.Adds request (fun scripts => [scripts.2])
        fun _ => False := Scripts.adds_nothing request
  cases command with
  | checkSchema path =>
    refine .congr (effect_run_schema settings files · rfl path) ?_
    exact (Solr.Client.adds_performSchemaCheck (fun request _ => carried request) _).bind
      fun _ => .pure _
  | operate operation =>
    refine .congr (effect_run_on_index settings files · rfl reads) ?_
    exact (Operation.adds_perform carried reads).bind fun _ => .pure _

theorem adds_run_clear (reference : String) :
    ((Command.operate (.clear (some reference))).run (Scripts.surroundings obstacle) settings
      files).Adds Scripts.requests (Solr.Meant .post (settings.solr.baseUrl ++ "/update")
        [("commit", "true")] (some (Solr.Client.deletion (Solr.referenceFilter
          (Solr.scopeFilter settings.solr.siteId EntityType.package.tag) reference)))) := by
  refine adds_run_of_carried _ obstacle settings files ?_
  have adding : (settings.core Scripts.transport).Adding .post
      (settings.solr.baseUrl ++ "/update") [("commit", "true")]
      (some (Solr.Client.deletion (Solr.referenceFilter
        (settings.core Scripts.transport).scope reference))) Scripts.requests _ :=
    fun _ meant _ => Scripts.adds_requests meant
  refine .congr (effect_run_on_index settings files · rfl rfl) ?_
  exact (Operation.adds_clear adding _).bind fun _ => .pure _

end Touches

/-- Checking a file sends nothing. -/
theorem state_run_file {σ : Type} (surroundings : Surroundings σ) (settings : Settings)
    (files : String → Except String ByteArray) (state : σ) (path : String) :
    (((Command.checkSchema (some path)).run surroundings settings files).effect state).2 =
      state := by
  cases carried : surroundings.obstacle with
  | some reason => exact state_run_of_obstacle settings files state carried _
  | none =>
  rw [effect_run_schema settings files state carried, Option.map_some]
  unfold performSchemaCheck
  rw [Action.effect_bind, Action.effect_bind, SchemaGate.check, SchemaGate.effect_checkWith_file]
  rcases SchemaGate.verdict _ (some ⟨path, files path⟩) [] with failure | version | -
  · rfl
  · rfl
  · rfl

/-- The filter of a deletion by id meets a document just if it belongs to the scope and has the
reference as its id or its name; and it is the filter of no site. -/
theorem passes_reference_iff (siteId tag reference : String) :
    (∀ document, Solr.passes (Solr.referenceFilter (Solr.scopeFilter siteId tag) reference)
        document = true ↔
      Solr.passes (Solr.scopeFilter siteId tag) document = true ∧
        (document.id? = some reference ∨ document.name? = some reference)) ∧
    ∀ other, Solr.referenceFilter (Solr.scopeFilter siteId tag) reference ≠
      Solr.siteFilter other := by
  refine ⟨fun document => ?_, fun other same => ?_⟩
  · unfold Solr.passes
    rw [Solr.Query.read?_referenceFilter, Solr.Query.read?_scopeFilter, Option.any_some,
      Option.any_some, Solr.Query.admits_ofReference]
  · have queries := congrArg Solr.Query.read? same
    rw [Solr.Query.read?_referenceFilter, Solr.Query.read?_siteFilter] at queries
    exact absurd (congrArg Solr.Series.others (Option.some.inj queries)) (List.cons_ne_nil _ _)

/-- **No command touches more than it should.** Looking at the index or at its schema sends nothing
but requests that only look; they do not lead to the update handler, if the address of the core has
no query and no fragment. A command that needs no store runs no statement, and the address of the
database has no part in what it does. Checking a file sends nothing at all. A command that needs the
store fails without its address before anything is sent. And clearing one dataset removes nothing
but what has its reference as its id or name in the scope of datasets of the site. -/
theorem execute_touches {arguments : List String} {command : Command}
    (parsed : read arguments = .ok command) (lookup : String → Option String)
    (files : String → Except String ByteArray) (obstacle : Option String) (start : Scripts) :
    let solr := (Settings.load lookup).1.solr
    let ran := execute (Scripts.surroundings obstacle) lookup files arguments start
    (command.onlyLooks = true →
      ∃ made, ran.2.requests = start.requests ++ made ∧
        (∀ request ∈ made, Solr.Client.Looks solr.baseUrl request) ∧
        ∀ core, Url.Address.parse solr.baseUrl = .ok core → core.query = none →
          core.fragment = none → ∃ root, ∀ request ∈ made,
            Solr.Client.LeadsApart solr.baseUrl root request) ∧
    (command.readsStore = false →
      ran.2.2 = start.2 ∧
      ∀ other : String → Option String,
        (∀ name, name ≠ "DATABASE_URL" → other name = lookup name) →
          execute (Scripts.surroundings obstacle) other files arguments start = ran ∧
          (Settings.load other).2 = (Settings.load lookup).2 ∧
          command.run (Scripts.surroundings obstacle) (Settings.load other).1 files =
            command.run (Scripts.surroundings obstacle) (Settings.load lookup).1 files) ∧
    (∀ path, command = .checkSchema (some path) → ran.2 = start) ∧
    (command.readsStore = true → Settings.given lookup "DATABASE_URL" = none →
      ran = (⟨1, "", "Error: ConfigError(\"DATABASE_URL is not set\")\n"⟩, start)) ∧
    ∀ reference, command = .operate (.clear (some reference)) →
      let filter := Solr.referenceFilter (Solr.scopeFilter solr.siteId EntityType.package.tag)
        reference
      (∃ made, ran.2.requests = start.requests ++ made ∧
        ∀ request ∈ made, Solr.Meant .post (solr.baseUrl ++ "/update") [("commit", "true")]
          (some (Solr.Client.deletion filter)) request) ∧
      (∀ document, Solr.passes filter document = true ↔
        Solr.passes (Solr.scopeFilter solr.siteId EntityType.package.tag) document = true ∧
          (document.id? = some reference ∨ document.name? = some reference)) ∧
      ∀ siteId, filter ≠ Solr.siteFilter siteId := by
  intro solr ran
  have whole : ran = _ := execute_eq parsed (Scripts.surroundings obstacle) lookup files start
  have reached := congrArg Prod.snd whole
  simp only at reached
  refine ⟨?looking, ?indexed, ?filed, ?unset, ?cleared⟩
  case looking =>
    intro looks
    rw [reached]
    obtain ⟨made, sent, each⟩ := adds_run_looking command obstacle _ files looks start
    refine ⟨made, sent, each, fun core parsed noQuery noFragment => ?_⟩
    obtain ⟨root, leads⟩ := Solr.Client.leadsApart_of_looks parsed noQuery noFragment
    exact ⟨root, fun request member => leads request (each request member)⟩
  case indexed =>
    intro reads
    rw [reached]
    refine ⟨(adds_run_on_index command obstacle _ files reads).eq_of_singleton start,
      fun other alike => ?_⟩
    have same := run_of_alike reads (Scripts.surroundings obstacle) alike files
    have warnings := congrArg Prod.snd (load_of_database alike)
    refine ⟨?_, warnings, same⟩
    rw [execute_eq parsed, same, whole]
  case filed =>
    rintro path rfl
    rw [reached]
    exact state_run_file _ _ files start path
  case unset =>
    intro reads unset
    cases command with
    | checkSchema path => cases reads
    | operate operation =>
      rw [whole, effect_run_unset _ _ _ reads unset]
      rfl
  case cleared =>
    rintro reference rfl
    rw [reached]
    exact ⟨adds_run_clear obstacle _ files reference start, passes_reference_iff _ _ _⟩

/-- Where no variable is set, a rebuild fails before anything is sent, and clearing a dataset runs
no statement. Where the address of the core is set, showing a dataset sends something that leads
apart from the update handler. -/
theorem execute_touches_of_unset :
    let base := "http://[::1]/c"
    let nothing : String → Option String := fun _ => none
    let located : String → Option String := fun name =>
      if name = "SOLR_URL" then some base else none
    let start : Scripts := ⟨⟨[none], []⟩, ⟨[], []⟩⟩
    let ran (lookup : String → Option String) (arguments : List String) :=
      execute (Scripts.surroundings none) lookup (fun _ => .error "") arguments start
    read ["rebuild"] = .ok (.operate (.rebuild .all default)) ∧
      read ["clear", "x"] = .ok (.operate (.clear (some "x"))) ∧
      read ["show", "x"] = .ok (.operate (.display "x")) ∧
      ran nothing ["rebuild"] =
        (⟨1, "", "Error: ConfigError(\"DATABASE_URL is not set\")\n"⟩, start) ∧
      (ran nothing ["clear", "x"]).2.2 = start.2 ∧
      (ran located ["show", "x"]).2.requests.length = 1 ∧
      ∃ root, ∀ request ∈ (ran located ["show", "x"]).2.requests,
        Solr.Client.LeadsApart base root request := by
  intro base nothing located start ran
  have rebuild : read ["rebuild"] = .ok (.operate (.rebuild .all default)) := rfl
  have clear : read ["clear", "x"] = .ok (.operate (.clear (some "x"))) := rfl
  have display : read ["show", "x"] = .ok (.operate (.display "x")) := rfl
  obtain ⟨-, -, -, unset, -⟩ := execute_touches rebuild nothing (fun _ => .error "") none start
  obtain ⟨-, apart, -⟩ := execute_touches clear nothing (fun _ => .error "") none start
  obtain ⟨looking, -⟩ := execute_touches display located (fun _ => .error "") none start
  obtain ⟨made, sent, -, leads⟩ := looking rfl
  have loaded : (Settings.load located).1.solr.baseUrl = base := by decide +kernel
  rw [loaded] at leads
  have known : (Url.Address.parse base).isOk = true := by decide +kernel
  have bare : (Url.Address.parse base).toOption.all
      (fun core => core.query.isNone && core.fragment.isNone) = true := by decide +kernel
  have single : (ran located ["show", "x"]).2.requests.length = 1 := by decide +kernel
  refine ⟨rebuild, clear, display, unset rfl rfl, (apart rfl).1, single, ?_⟩
  obtain ⟨core, parsed⟩ := exists_of_isOk known
  rw [parsed] at bare
  obtain ⟨noQuery, noFragment⟩ := (Bool.and_eq_true _ _).mp bare
  obtain ⟨root, each⟩ := leads core parsed (Option.isNone_iff_eq_none.mp noQuery)
    (Option.isNone_iff_eq_none.mp noFragment)
  have all : (ran located ["show", "x"]).2.requests = made := sent
  exact ⟨root, all ▸ each⟩

end Command

end CatalogSync
