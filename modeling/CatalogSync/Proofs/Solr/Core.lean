/-
**A core to go by.**

* `Core` — the documents of a core under their keys: those that readers see, and those that the next
  commit puts over them.
* `Core.obey?` — what the update handler does with a body. A posted document waits until the next
  commit and then replaces the one under its key. A deletion drops every document whose current
  version passes the filter, in whatever versions it is there.
* `Core.matching` — what the select handler finds: the visible documents that pass a filter, in
  ascending order of their ids.
* `Core.transport` — the core behind its two handlers. Pages are sliced as a `Shelf` slices them.
* `Client.Reaches` — a client whose requests arrive at such a core.
* **`effect_perform_of_payload`**, **`effect_select_core`** — what becomes of its writes, and which
  page it gets. `effect_insert_core` and its like say it of each call.
* `Client.shown` — the document for a record, as such a core reads it.
-/

import CatalogSync.Proofs.Record
import CatalogSync.Proofs.Solr.Key
import CatalogSync.Proofs.Solr.Paging
import CatalogSync.Proofs.Solr.Scope
import CatalogSync.Proofs.Solr.Writing

namespace CatalogSync

/-- The name of the handler that an address leads to. -/
def Url.Address.handler? (address : Url.Address) : Option String :=
  match address.path with
  | .segments segments => segments.getLast?
  | .undivided _ => none

namespace Solr

/-- The documents of a core under their keys. -/
structure Core where
  /-- What readers see. -/
  visible : SortedMap Record
  /-- What the next commit puts over it. -/
  pending : SortedMap Record

namespace Core

/-! ### Documents -/

/-- The core without documents. -/
def empty : Core := ⟨.empty, .empty⟩

/-- The current versions of the documents. -/
def settled (core : Core) : SortedMap Record := core.visible.overlay core.pending

/-- The core with everything visible. -/
def flushed (core : Core) : Core := ⟨core.settled, .empty⟩

/-- The core with everything visible, if so told. -/
def flushedIf (commit : Bool) (core : Core) : Core := if commit then core.flushed else core

/-- The core with a further document that waits for the next commit. -/
def holding (key : String) (document : Record) (core : Core) : Core :=
  { core with pending := core.pending.insert key document }

/-- Whether the current version of the document under a key passes a filter. -/
def meets (core : Core) (filter key : String) : Bool := (core.settled.get? key).any (passes filter)

/-- The core without the documents whose current versions pass a filter. -/
def without (filter : String) (core : Core) : Core where
  visible := core.visible.filter fun key _ => !core.meets filter key
  pending := core.pending.filter fun key _ => !core.meets filter key

/-- The visible documents that pass a filter, in ascending order of their ids. -/
def matching (core : Core) (filter : String) : List Record :=
  (core.visible.values.filter (passes filter)).mergeSort fun first second =>
    decide (first.id?.getD "" ≤ second.id?.getD "")

/-- A deletion that is committed leaves the current versions that do not pass. -/
theorem flushed_without (filter : String) (core : Core) :
    (core.without filter).flushed =
      ⟨core.settled.filter fun _ document => !passes filter document, .empty⟩ := by
  suffices (core.without filter).settled =
      core.settled.filter fun _ document => !passes filter document by rw [flushed, this]
  refine SortedMap.ext_get? fun key => ?_
  unfold settled without meets settled
  simp only [SortedMap.get?_overlay, SortedMap.get?_filter]
  cases core.pending.get? key with
  | some latest => cases met : passes filter latest <;> simp [Option.filter_some, met]
  | none =>
    cases core.visible.get? key with
    | none => rfl
    | some shown => cases met : passes filter shown <;> simp [Option.filter_some, met]

/-! ### Handlers -/

/-- The core with a document that was posted. A document has to have a key. -/
def posted? (core : Core) (item : Value) : Option Core := do
  let document ← Record.ofValue? item.canonical
  let key ← document.key?
  some (core.holding key document)

/-- What the update handler does with a body. -/
def obey? (core : Core) : Value → Option Core
  | .list items => items.foldlM posted? core
  | .object [("delete", .object [("query", .text filter)])] => some (core.without filter)
  | .object [("commit", _)] => some core.flushed
  | _ => none

/-- A reply without a body. -/
def bare (status : Nat) : Http.Reply := ⟨status, .text "", true⟩

/-- The core behind its two handlers. -/
def transport : Http.Transport Core where
  exchange request core :=
    match request.method, request.address.handler?, request.body with
    | .post, some "update", some body =>
      match core.obey? body with
      | some reached =>
        (some (bare 200), reached.flushedIf (request.address.pairs.contains ("commit", "true")))
      | none => (some (bare 400), core)
    | .get, some "select", _ =>
      let found := core.matching ((request.address.pairs.lookup "fq").getD "")
      (some ⟨200, .value (Shelf.written found (Shelf.asked request "rows")
        (Shelf.asked request "start")), true⟩, core)
    | _, _, _ => (some (bare 404), core)

end Core

/-! ### Clients of a core -/

namespace Client

section Documents

variable {σ : Type} (client : Client σ) (id : String) (record : Record)

/-- The document for a record, as an engine reads it. -/
def shown : Record := client.document record.canonical id

theorem canonical_document : (client.document record id).canonical = client.shown id record := by
  unfold document shown document
  rw [Record.canonical_insert, Record.canonical_insert, Record.canonical_insert]
  rfl

theorem canonical_shown : (client.shown id record).canonical = client.shown id record := by
  unfold shown
  rw [canonical_document, shown, Record.canonical_canonical]

theorem id?_shown : (client.shown id record).id? = record.id? :=
  (id?_document client _ id).trans (Record.id?_canonical record)

theorem obey?_document (core : Core) :
    core.obey? (.list [(client.document record id).toValue]) =
      some (core.holding (client.indexId id) (client.shown id record)) := by
  have posted : core.posted? (client.document record id).toValue =
      some (core.holding (client.indexId id) (client.shown id record)) := by
    unfold Core.posted?
    rw [Record.ofValue?_canonical, canonical_document, shown]
    simp only [Option.bind_eq_bind, Option.bind_some, key?_document]
  show List.foldlM Core.posted? core [_] = _
  rw [List.foldlM_cons, posted]
  rfl

end Documents

variable {σ : Type} (client : Client σ)

/-- The address of the update handler, as it is written. -/
def updateUrl : String := client.settings.baseUrl ++ "/update"

/-- Whether a text is an address without a query that leads to a handler. -/
def locates (url name : String) : Bool :=
  (Url.Address.parse url).toOption.any fun address =>
    address.query.isNone && address.handler? == some name

/-- A selection can be sent: it is not too long for an address. -/
def CanSelect (filter fields : String) (rows start : Nat) : Prop :=
  ∃ request, client.request .get client.selectUrl (selecting filter fields rows start) none =
    .ok request

/-- The requests of a client arrive at a core with a number of documents at most. -/
structure Reaches (bound : Nat) : Prop where
  base : ∃ address, Url.Address.parse client.settings.baseUrl = .ok address
  update : locates client.updateUrl "update" = true
  select : locates client.selectUrl "select" = true
  /-- What is posted can be sent. -/
  posts : ∀ commit : Bool, ∃ request, client.request .post client.updateUrl
    (if commit then [("commit", "true")] else []) none = .ok request
  /-- So can requests for ids. -/
  lists : ∀ rows start, 0 < rows → rows ≤ client.settings.rowsMax → start ≤ bound →
    client.CanSelect client.scope "id" rows start

section

variable {client} {method : Http.Method} {url name : String} {pairs : List (String × String)}
  {request : Http.Request}

/-- Whether a request can be sent does not depend on what it brings. -/
theorem request_withBody
    (built : client.request method url pairs none = .ok request) (body : Option Value) :
    client.request method url pairs body = .ok { request with body } := by
  unfold Client.request at built ⊢
  cases parsed : Url.Address.parse url with
  | error problem =>
    rw [parsed] at built
    cases built
  | ok address =>
    simp only [parsed] at built ⊢
    by_cases hostless : (!address.hasHost) = true
    · rw [if_pos hostless] at built
      cases built
    rw [if_neg hostless] at built ⊢
    generalize (if address.account.isSome = true then address.withoutAccount else address).withPairs
      pairs = full at built ⊢
    by_cases sendable : (full.isHttp && full.isSendable) = true
    · rw [if_pos sendable] at built ⊢
      cases built
      rfl
    · rw [if_neg sendable] at built
      cases built

/-- A request to a handler goes there, and says what it is meant to say. -/
theorem handler?_of_meant {body : Option Value} (located : locates url name = true)
    (meant : Meant method url pairs body request) :
    request.address.handler? = some name ∧ request.address.pairs = pairs := by
  obtain ⟨address, parsed, -, -, -, path, said⟩ := meant.address
  unfold locates at located
  rw [parsed, Except.toOption, Option.any_some, Bool.and_eq_true, Option.isNone_iff_eq_none]
    at located
  refine ⟨?_, ?_⟩
  · unfold Url.Address.handler? at located ⊢
    rw [path]
    exact eq_of_beq located.2
  · rw [said, Url.Address.pairs_eq address, located.1]
    rfl

end

theorem endpoint_of_parse (parses : ∃ address, Url.Address.parse client.settings.baseUrl =
    .ok address) (offset : String) :
    client.endpoint offset = .ok (client.settings.baseUrl ++ offset) := by
  obtain ⟨address, parsed⟩ := parses
  unfold endpoint
  simp only [parsed]

end Client

namespace Client

variable {client : Client Core} {bound : Nat} (behind : client.transport = Core.transport)
  (reaches : client.Reaches bound)
include behind reaches

/-- **A write does with the core what the update handler does with its body.** -/
theorem effect_perform_of_payload {write : IndexWrite} {body : Value} {commit : Bool}
    (carried : client.payload? write = some (body, commit)) {core reached : Core}
    (obeyed : core.obey? body = some reached) :
    (write.perform client.writer).effect core = (.ok (), reached.flushedIf commit) := by
  obtain ⟨request, made⟩ : ∃ request, client.request .post client.updateUrl
      (if commit then [("commit", "true")] else []) (some body) = .ok request := by
    obtain ⟨plain, built⟩ := reaches.posts commit
    exact ⟨_, request_withBody built (some body)⟩
  have ordered : client.order write = .ok request := by
    unfold order posting
    rw [carried, endpoint_of_parse client reaches.base]
    show (client.request .post client.updateUrl _ (some body)).mapError _ = _
    rw [made]
    rfl
  have meant := meant_of_request made
  obtain ⟨arrives, said⟩ := handler?_of_meant reaches.update meant
  have told : (if commit then [("commit", "true")] else []).contains ("commit", "true") =
      commit := by
    cases commit
    · rfl
    · rfl
  have answered : client.transport.exchange request core =
      (some (Core.bare 200), reached.flushedIf commit) := by
    rw [behind]
    unfold Core.transport
    simp only [meant.method, meant.body, arrives, obeyed, said, told]
  rw [effect_perform, ordered, carriedOut, answered]
  rfl

section Writes

variable {record : Record} {id : String} (core : Core)

theorem effect_insert_core (known : record.id? = some id) :
    (client.writer.insert record).effect core =
      (.ok (), (core.holding (client.indexId id) (client.shown id record)).flushed) := by
  have carried : client.payload? (.insert record) =
      some (.list [(client.document record id).toValue], true) := by
    rw [payload?, known, Option.map_some]
  exact effect_perform_of_payload behind reaches carried (obey?_document client id record core)

theorem effect_update_core (known : record.id? = some id) (deferCommit : Bool) :
    (client.writer.update record deferCommit).effect core =
      (.ok (), (core.holding (client.indexId id) (client.shown id record)).flushedIf
        !deferCommit) := by
  have carried : client.payload? (.update record deferCommit) =
      some (.list [(client.document record id).toValue], !deferCommit) := by
    rw [payload?, known, Option.map_some]
  exact effect_perform_of_payload behind reaches carried (obey?_document client id record core)

theorem effect_remove_core (known : record.id? = some id) :
    (client.writer.remove record).effect core =
      (.ok (), (core.without (referenceFilter client.scope id)).flushed) := by
  have carried : client.payload? (.remove record) =
      some (deletion (referenceFilter client.scope id), true) := by
    rw [payload?, known, Option.map_some]
  exact effect_perform_of_payload behind reaches carried rfl

theorem effect_clear_core :
    client.writer.clear.effect core =
      (.ok (), (core.without (siteFilter client.settings.siteId)).flushed) :=
  have carried : client.payload? .clear =
      some (deletion (siteFilter client.settings.siteId), true) := rfl
  effect_perform_of_payload behind reaches carried rfl

theorem effect_commit_core : client.writer.commit.effect core = (.ok (), core.flushed) :=
  have carried : client.payload? .commit = some (.object [("commit", .object [])], false) := rfl
  effect_perform_of_payload behind reaches carried rfl

end Writes

omit behind reaches in
/-- Nothing is sent for a record without an id. -/
theorem effect_perform_of_nameless {write : IndexWrite} (nameless : write.isNameless = true)
    (core : Core) : (write.perform client.writer).effect core = (.error missingId, core) := by
  rw [effect_perform, order_of_nameless nameless]
  rfl

/-- A request for documents is answered with a page of those that pass. -/
theorem exchange_select {filter fields : String} {rows start : Nat} {request : Http.Request}
    (meant : Meant .get client.selectUrl (selecting filter fields rows start) none request)
    (core : Core) :
    client.transport.exchange request core =
      (some ⟨200, .value (Shelf.written (core.matching filter) rows start), true⟩, core) := by
  obtain ⟨arrives, said⟩ := handler?_of_meant reaches.select meant
  have rowsAsked : Shelf.asked request "rows" = rows := Shelf.asked_of_lookup (by rw [said]; rfl)
  have startAsked : Shelf.asked request "start" = start :=
    Shelf.asked_of_lookup (by rw [said]; rfl)
  have filterAsked : request.address.pairs.lookup "fq" = some filter := by
    rw [said]
    rfl
  rw [behind]
  unfold Core.transport
  simp only [meant.method, arrives, filterAsked, rowsAsked, startAsked, Option.getD_some]

/-- **A selection gets the page that it asks for.** -/
theorem effect_select_core {filter fields : String} {rows start : Nat}
    (sendable : client.CanSelect filter fields rows start) {core : Core}
    (few : (core.matching filter).length < Text.wordLimit)
    (canonical : ∀ document ∈ core.matching filter, document.canonical = document) :
    (client.select filter fields rows start).effect core =
      (.ok ⟨(core.matching filter).length, ((core.matching filter).drop start).take rows, few⟩,
        core) := by
  obtain ⟨request, built⟩ := sendable
  have answered := exchange_select behind reaches (meant_of_request built) core
  have addressed : (Action.ofExcept (client.endpoint "/select")).effect core =
      (.ok client.selectUrl, core) := by
    rw [Action.effect_ofExcept, endpoint_of_parse client reaches.base]
    rfl
  refine (Action.effect_bind_of_ok addressed _).trans
    ((Action.effect_bind_of_ok (effect_exchange built answered) _).trans ?_)
  have legible : ∀ document ∈ core.matching filter,
      Record.ofValue? document.toValue.canonical = some document := fun document member => by
    rw [Record.ofValue?_canonical, canonical document member]
  have page : (Http.Body.value (Shelf.written (core.matching filter) rows start)).value?.bind
      Page.ofValue? = some ⟨_, _, few⟩ := Shelf.ofValue?_written legible few rows start
  simp only [page]
  rfl

end Client

end Solr

end CatalogSync
