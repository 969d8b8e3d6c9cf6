/-
**A Solr core as an index.**

* `Solr.Client σ` — the settings of a core, the type whose documents are meant, and a transport.
* `Solr.Client.writer` — the writing side. Every write is one request to the update handler, and it
  is done only if the engine answers with success.
* `Solr.Client.reader` — the reading side. All ids are collected page after page.
* `Solr.Client.schema` — the core as a source of schemas.

Every document carries the site and the type that it belongs to, so that one core can hold the
documents of several catalogues.
-/

import CatalogSync.Http.Transport
import CatalogSync.Index
import CatalogSync.Schema.Gate
import CatalogSync.Solr.Filter
import CatalogSync.Solr.Page
import CatalogSync.Solr.Settings
import CatalogSync.Text.Bytes

namespace CatalogSync.Solr

/-- A core, as seen from the documents of one type. -/
structure Client (σ : Type) where
  settings : Settings
  entityType : EntityType
  transport : Http.Transport σ

namespace Client

variable {σ : Type}

/-! ### Requests -/

/-- Tells that a core is going to be used. -/
def announce (settings : Settings) (entityType : EntityType) : Action σ Unit :=
  .tell .info "Created Solr provider"
    [("url", .text settings.baseUrl), ("site_id", .text settings.siteId),
      ("entity_type", .text entityType.tag), ("rows_max", .number settings.rowsMax)]

/-- The address of a handler. The address of the core has to be well-formed. -/
def endpoint (client : Client σ) (offset : String) : Except SearchError String :=
  let base := client.settings.baseUrl
  match Url.Address.parse base with
  | .ok _ => .ok (base ++ offset)
  | .error problem =>
    .error (.connection ("Invalid Solr URL '" ++ base ++ "': " ++ problem.message))

/-- The header that names an account. -/
def basicAuthorization (user password : String) : String :=
  "Basic " ++ Text.base64 (user ++ ":" ++ password)

/-- The header of a request: that for the account in its address, or else that for the account of
the settings. -/
def authorization? (client : Client σ) (account : Option (String × Option String)) :
    Option String :=
  match account with
  | some (user, password) => some (basicAuthorization user (password.getD ""))
  | none => client.settings.credentials?.map fun (user, password) =>
    basicAuthorization user password

/-- The request to an address, or the complaint about it. An account in the address goes into the
header. -/
def request (client : Client σ) (method : Http.Method) (url : String)
    (pairs : List (String × String)) (body : Option Value) : Except String Http.Request :=
  match Url.Address.parse url with
  | .error _ => .error "builder error"
  | .ok address =>
    if !address.hasHost then .error ("builder error for url (" ++ address.text ++ ")")
    else
      let account := address.account
      let bare := if account.isSome then address.withoutAccount else address
      let full := bare.withPairs pairs
      if full.isHttp && full.isSendable then
        .ok ⟨method, full, client.authorization? account, body⟩
      else
        .error ("builder error for url (" ++ full.text ++ ")")

/-- Sends a request: the reply, or the complaint that there is none. -/
def send (client : Client σ) (method : Http.Method) (url : String) (pairs : List (String × String))
    (body : Option Value) : Action σ (Except String Http.Reply) := fun state =>
  match client.request method url pairs body with
  | .error complaint => ⟨.ok (.error complaint), state, []⟩
  | .ok request =>
    match client.transport.exchange request state with
    | (some reply, state) => ⟨.ok (.ok reply), state, []⟩
    | (none, state) =>
      ⟨.ok (.error ("error sending request for url (" ++ request.address.text ++ ")")), state, []⟩

/-- Sends a request and fails if there is no reply. -/
def exchange (client : Client σ) (method : Http.Method) (url : String)
    (pairs : List (String × String)) (body : Option Value) : Action σ Http.Reply := do
  match ← client.send method url pairs body with
  | .ok reply => pure reply
  | .error complaint => .fail (.connection complaint)

/-- The complaint about a body that cannot be read. -/
def undecodable : String := "error decoding response body"

/-- Tells of a reply that is no success, and fails. -/
def refuse {α : Type} (call : String) (failure : String → SearchError) (reply : Http.Reply) :
    Action σ α := do
  let status := Http.statusText reply.status
  let body := if reply.isComplete then reply.body.content else ""
  .tell .error (call ++ " request failed") [("status", .text status), ("body", .text body)]
  .fail (failure (call ++ " failed with status " ++ status ++ ": " ++ body))

/-! ### Writing -/

/-- The key under which the engine keeps a document. -/
def indexId (client : Client σ) (id : String) : String :=
  client.settings.siteId ++ ":" ++ client.entityType.tag ++ ":" ++ id

/-- The document for a record with an id: its fields, with those of the scope put over them. -/
def document (client : Client σ) (record : Record) (id : String) : Record :=
  ((record.insert "index_id" (.text (client.indexId id))).insert "site_id"
    (.text client.settings.siteId)).insert "entity_type" (.text client.entityType.tag)

/-- Sends a body to the update handler, and has the writes made visible if told so. -/
def postUpdate (client : Client σ) (body : Value) (commit : Bool) : Action σ Unit := do
  let url ← .ofExcept (client.endpoint "/update")
  let pairs := if commit then [("commit", "true")] else []
  let reply ← client.exchange .post url pairs (some body)
  if Http.isSuccess reply.status then pure () else refuse "Update" .indexWrite reply

/-- The failure of a record that cannot be identified. -/
def missingId : SearchError := .indexWrite "Record has no id"

/-- Adds or replaces the document of a record. -/
def index (client : Client σ) (record : Record) (commit : Bool) : Action σ Unit :=
  match record.id? with
  | none => .fail missingId
  | some id => do
    client.postUpdate (.list [(client.document record id).toValue]) commit
    .tell .debug "Document indexed"
      [("id", .text (Text.quotedOption record.id?)), ("commit", .flag commit)]

/-- The filter for the documents of the type and the site. -/
def scope (client : Client σ) : String :=
  scopeFilter client.settings.siteId client.entityType.tag

/-- The body that removes the documents that pass a filter. -/
def deletion (filter : String) : Value :=
  .object [("delete", .object [("query", .text filter)])]

/-- The writing side. Clearing removes all documents of the site, of whatever type. -/
def writer (client : Client σ) : IndexWriter σ where
  insert record := client.index record true
  update record deferCommit := client.index record (!deferCommit)
  remove record :=
    match record.id? with
    | none => .fail missingId
    | some id => do
      client.postUpdate (deletion (referenceFilter client.scope id)) true
      .tell .debug "Document removed" [("id", .text id)]
  clear := do
    client.postUpdate (deletion (siteFilter client.settings.siteId)) true
    .tell .info "Search index cleared" [("site_id", .text client.settings.siteId)]
  commit := client.postUpdate (.object [("commit", .object [])]) false

/-! ### Reading -/

/-- Some fields of the documents that pass a filter, a number of them at most and from an offset on,
in ascending order of their ids. -/
def select (client : Client σ) (filter fields : String) (rows start : Nat) : Action σ Page := do
  let url ← .ofExcept (client.endpoint "/select")
  let reply ← client.exchange .get url
    [("q", "*:*"), ("fq", filter), ("fl", fields), ("rows", toString rows),
      ("start", toString start), ("sort", "id asc"), ("wt", "json")] none
  if Http.isSuccess reply.status then
    match (if reply.isComplete then reply.body.value?.bind Page.ofValue? else none) with
    | some page => pure page
    | none => .fail (.parse undecodable)
  else
    refuse "Select" .query reply

/-- The number of ids that counts as all of them. -/
def allIds : Nat := Text.wordLimit - 1

/-- Collects ids page after page, given those found so far and the number of documents seen. A page
never claims 2^64 documents or more, and each page starts further on, so the pages come to an end.
-/
def collect (client : Client σ) (limit start : Nat) (found : List String) :
    Action σ (List String) :=
  if found.length < limit then do
    let page ← client.select client.scope "id"
      (min client.settings.rowsMax (limit - found.length)) start
    if page.docs.length = 0 then pure found
    else if start + page.docs.length < page.numFound then
      client.collect limit (start + page.docs.length) (found ++ page.ids)
    else
      pure (found ++ page.ids)
  else
    pure found
  termination_by Text.wordLimit - start
  decreasing_by
    have bounded := page.numFound_lt
    omega

/-- The reading side. -/
def reader (client : Client σ) : IndexReader σ where
  ids limit := do
    let found ← client.collect (limit.getD allIds) 0 []
    .tell .debug "Enumerated indexed ids" [("count", .number found.length)]
    pure found
  find reference := do
    let page ← client.select (referenceFilter client.scope reference) "*" 1 0
    pure page.docs.head?

/-! ### Schemas -/

/-- Whether the engine answers with success when it is called. -/
def isAvailable (client : Client σ) : Action σ Bool := do
  match client.endpoint "/admin/ping" with
  | .error failure => do
    .tell .warn "Solr is not configured" [("error", .text failure.message)]
    pure false
  | .ok url =>
    match ← client.send .get url [("wt", "json")] none with
    | .error complaint => do
      .tell .warn "Could not connect to Solr" [("error", .text complaint), ("url", .text url)]
      pure false
    | .ok reply =>
      if Http.isSuccess reply.status then pure true
      else do
        .tell .warn "Solr ping failed"
          [("status", .text (Http.statusText reply.status)), ("url", .text url)]
        pure false

/-- The schema in one of the two places. -/
def fetchSchema (client : Client σ) (location : SchemaLocation) : Action σ String := do
  let url ← .ofExcept (client.endpoint location.offset)
  let reply ← client.exchange .get url [] none
  if !Http.isSuccess reply.status then .fail (.http reply.status url)
  else if reply.isComplete then pure reply.body.content
  else .fail (.connection undecodable)

/-- The core as a source of schemas. -/
def schema (client : Client σ) : SchemaSource σ := ⟨client.isAvailable, client.fetchSchema⟩

end Client

end CatalogSync.Solr
