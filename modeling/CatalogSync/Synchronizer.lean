/-
**The synchroniser put together.**

* `Surroundings σ` — what a synchroniser reaches outside of itself: whoever carries its requests,
  unless there is an obstacle to that, and databases to connect to.
* `Synchronizer σ` — the feed that storage layers publish to, the indexes, the engine for bulk
  operations and the source of the schema.
* `Synchronizer.wire` — the synchroniser of given parts. Datasets are the only type that is indexed.
* `Synchronizer.openCore` — the core that settings describe. An obstacle keeps it from being opened,
  and `Synchronizer.setUp` is the complaint that this comes to.
* `Synchronizer.full`, `Synchronizer.indexOnly` — the synchroniser that settings describe, with the
  database as its store of record or with none.
-/

import CatalogSync.Bulk.Engine
import CatalogSync.Observer
import CatalogSync.Settings
import CatalogSync.Solr.Client
import CatalogSync.Store.Location
import CatalogSync.Store.Sql

namespace CatalogSync

/-- What a synchroniser reaches outside of itself. -/
structure Surroundings (σ : Type) where
  /-- Whoever carries its requests. -/
  transport : Http.Transport σ
  /-- The reason why no request can be handed over to be carried, if there is one. -/
  obstacle : Option String
  /-- The session on the database at an address. -/
  connect : (url : String) → Except SearchError (Sql.Session σ)

namespace Surroundings

/-- Connects to the location that an address gives. -/
def connecting {α : Type} (attempt : Sql.Location → Except SearchError α) (url : String) :
    Except SearchError α :=
  match Sql.Location.read url with
  | .ok location => attempt location
  | .error problem => .error (.store problem.message)

/-- The number of bytes that the path of a socket cannot have. -/
def socketPathLimit : Nat := 108

/-- The reason why no database is found on a host without a network, where names are not known and
no socket waits for anyone. -/
def absence (location : Sql.Location) : String :=
  match location.socketPath? with
  | none =>
    if location.isKnown then "Network is unreachable (os error 101)"
    else "failed to lookup address information: Temporary failure in name resolution"
  | some path =>
    if path.toList.contains '\x00' then "paths must not contain interior null bytes"
    else if socketPathLimit ≤ path.utf8ByteSize then "path must be shorter than SUN_LEN"
    else "No such file or directory (os error 2)"

/-- The failure to reach a database on a host without a network. -/
def unreachable (location : Sql.Location) : SearchError :=
  .store ("error communicating with database: " ++ absence location)

/-- The surroundings of a host without a network. -/
def isolated {σ : Type} : Surroundings σ :=
  ⟨.unreachable, none, connecting fun location => .error (unreachable location)⟩

/-- Surroundings in which every reply and every result is laid out beforehand. -/
def scripted {σ : Type} (replies : Lens σ Http.Script) (answers : Lens σ Sql.Script) :
    Surroundings σ :=
  ⟨Http.Transport.scripted.on replies, none,
    connecting fun _ => .ok (Sql.Session.scripted.on answers)⟩

end Surroundings

/-- A synchroniser. -/
structure Synchronizer (σ : Type) where
  /-- Where the storage layer publishes its changes. -/
  feed : Feed σ
  indexes : Registry (IndexWriter σ)
  /-- Bulk operations on datasets. -/
  engine : Engine σ
  schema : SchemaSource σ

namespace Synchronizer

variable {σ : Type}

/-- The synchroniser of given parts, its observer listening to the feed. -/
def wire (writer : IndexWriter σ) (reader : IndexReader σ) (schema : SchemaSource σ)
    (store : RecordStore σ) (automatic : Bool) : Action σ (Synchronizer σ) := do
  let indexes := Registry.empty.register .package writer
  let engine ← Engine.ofRegistries .package indexes (Registry.empty.register .package reader) store
  let observer : Observer σ := ⟨.package, automatic, store, indexes⟩
  pure ⟨Feed.empty.register observer.listener, indexes, engine, schema⟩

/-- The core that settings describe, as seen from datasets. -/
def openCore (surroundings : Surroundings σ) (settings : Settings) :
    Action σ (Solr.Client σ) :=
  match surroundings.obstacle with
  | some reason => .fail (.connection reason)
  | none => do
    Solr.Client.announce settings.solr .package
    pure ⟨settings.solr, .package, surroundings.transport⟩

/-- What is set up on a core, or the complaint that the core could not be opened. -/
def setUp {α : Type} (action : Action σ α) : Action σ (Except SyncError α) := do
  match ← action.attempt with
  | .error failure =>
    pure (.error (.config ("Failed to create Solr provider: " ++ failure.message)))
  | .ok made => pure (.ok made)

/-- The synchroniser of a core and a store of record. -/
def ofCore (client : Solr.Client σ) (store : RecordStore σ) (automatic : Bool) :
    Action σ (Synchronizer σ) :=
  wire client.writer client.reader client.schema store automatic

/-- The synchroniser that settings describe. Without a database it cannot be set up. -/
def full (surroundings : Surroundings σ) (settings : Settings) :
    Action σ (Except SyncError (Synchronizer σ)) := do
  match settings.databaseUrl with
  | none => pure (.error (.config "DATABASE_URL is not set"))
  | some url => do
    .tell .info "Initializing dependencies"
      [("solr_url", .text settings.solr.baseUrl), ("site_id", .text settings.solr.siteId),
        ("automatic_indexing", .flag settings.automatic)]
    match ← setUp (openCore surroundings settings) with
    | .error complaint => pure (.error complaint)
    | .ok client =>
      match surroundings.connect url with
      | .error failure =>
        pure (.error (.config ("Failed to connect to database: " ++ failure.message)))
      | .ok session => do
        .tell .info "Database connection established" []
        let synchronizer ← ofCore client session.store settings.automatic
        pure (.ok synchronizer)

/-- The synchroniser that settings describe, without a store of record. It fails only if its core
cannot be opened. -/
def indexOnly (surroundings : Surroundings σ) (settings : Settings) :
    Action σ (Synchronizer σ) := do
  .tell .info "Initializing index-only dependencies"
    [("solr_url", .text settings.solr.baseUrl), ("site_id", .text settings.solr.siteId)]
  let client ← openCore surroundings settings
  ofCore client .detached settings.automatic

/-- The source of the schema that settings describe, without anything else. It fails only if its
core cannot be opened. -/
def schemaOnly (surroundings : Surroundings σ) (settings : Settings) :
    Action σ (SchemaSource σ) := do
  let client ← openCore surroundings settings
  pure client.schema

end Synchronizer

end CatalogSync
