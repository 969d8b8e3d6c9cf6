/-
**What can go wrong.**

* `SearchError` — the kinds of failure of an index, a store or a schema check, each with its detail.
* `SyncError` — a failure to set the synchroniser up, or one of the above.
* `message` — the text shown to people; `report` — the form that names the kind, which the command
  line prints.
-/

import CatalogSync.Text.Quoted

namespace CatalogSync

/-- A failure of an index, a store or a schema check. -/
inductive SearchError where
  /-- The index refused a write. -/
  | indexWrite (detail : String)
  /-- Nothing can be asked about this type. -/
  | unknownType (tag : String)
  /-- The engine's schema is not one that documents may be written against. -/
  | schema (detail : String)
  /-- The engine gave no answer. -/
  | connection (detail : String)
  /-- The engine answered with a status that is no success. -/
  | http (status : Nat) (url : String)
  /-- The engine refused a query. -/
  | query (detail : String)
  /-- An answer or a document could not be read. -/
  | parse (detail : String)
  /-- The store of record failed. -/
  | store (detail : String)
  /-- A rebuild stopped at a record. -/
  | rebuild (id : String) (detail : String)
  /-- There is no such record. -/
  | notFound (reference : String)
  /-- A file could not be read. -/
  | io (detail : String)
  deriving DecidableEq, Repr, Inhabited

namespace SearchError

/-- The text shown to people. -/
def message : SearchError → String
  | .indexWrite detail => "Index write error: " ++ detail
  | .unknownType tag => "Unknown search type: " ++ tag
  | .schema detail => "Schema error: " ++ detail
  | .connection detail => "Connection error: " ++ detail
  | .http status url => "HTTP error " ++ toString status ++ " from " ++ url
  | .query detail => "Query error: " ++ detail
  | .parse detail => "Parse error: " ++ detail
  | .store detail => "Store error: " ++ detail
  | .rebuild id detail => "Error while indexing record " ++ id ++ ": " ++ detail
  | .notFound reference => "Record not found: " ++ reference
  | .io detail => "IO error: " ++ detail

/-- The name of the kind of failure. -/
def kind : SearchError → String
  | .indexWrite _ => "IndexWriteError"
  | .unknownType _ => "UnknownType"
  | .schema _ => "SchemaError"
  | .connection _ => "ConnectionError"
  | .http .. => "HttpError"
  | .query _ => "QueryError"
  | .parse _ => "ParseError"
  | .store _ => "StoreError"
  | .rebuild .. => "RebuildError"
  | .notFound _ => "NotFound"
  | .io _ => "IoError"

/-- The kind with its details, texts in quotes. -/
def report (error : SearchError) : String :=
  error.kind ++
    match error with
    | .indexWrite detail | .unknownType detail | .schema detail | .connection detail
    | .query detail | .parse detail | .store detail | .notFound detail | .io detail =>
      "(" ++ Text.quoted detail ++ ")"
    | .http status url =>
      " \x7b status: " ++ toString status ++ ", url: " ++ Text.quoted url ++ " \x7d"
    | .rebuild id detail =>
      " \x7b id: " ++ Text.quoted id ++ ", message: " ++ Text.quoted detail ++ " \x7d"

/-- Whether the engine answered, but not with success. -/
def isHttp : SearchError → Bool
  | .http .. => true
  | _ => false

end SearchError

/-- A failure of the synchroniser as a whole. -/
inductive SyncError where
  /-- The synchroniser could not be set up. -/
  | config (detail : String)
  | search (error : SearchError)
  deriving DecidableEq, Repr, Inhabited

namespace SyncError

/-- The text shown to people. -/
def message : SyncError → String
  | .config detail => "Configuration error: " ++ detail
  | .search error => error.message

/-- The name of the kind of failure. -/
def kind : SyncError → String
  | .config _ => "ConfigError"
  | .search error => error.kind

/-- The kind with its details, texts in quotes. -/
def report : SyncError → String
  | .config detail => "ConfigError(" ++ Text.quoted detail ++ ")"
  | .search error => "SearchError(" ++ error.report ++ ")"

end SyncError

end CatalogSync
