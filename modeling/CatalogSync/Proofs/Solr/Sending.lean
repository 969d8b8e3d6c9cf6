/-
**What a client sends.**

* `Client.noted` — the client whose transport notes every exchange.
* `Meant` — a request goes to the handler of an address, with the names and values and the body that
  are meant for it. `meant_of_request` says so of the requests that a client builds, and
  `effect_exchange_eq` what becomes of them.
* `Filters` — a request names documents by a filter: it asks for those that pass, or has them
  removed.
* `SendsFilters` and **`sendsFilters`** — what a client sends when it lists ids, looks for a
  document, removes one or clears the site names documents by the filter that is meant for it.
* `Client.Adding` — carrying a request that is as it is meant adds only certain entries to a log.
  `adds_send` and its like carry this to whatever a client does.
* **`sends_document`** — what it sends when it writes a record is the document for that record.
-/

import CatalogSync.Proofs.Http.Traffic
import CatalogSync.Proofs.Url.Query
import CatalogSync.Solr.Client

namespace CatalogSync

theorem exists_of_isOk {ε α : Type} {result : Except ε α} (known : result.isOk = true) :
    ∃ value, result = .ok value := by
  cases result with
  | ok value => exact ⟨value, rfl⟩
  | error _ => cases known

namespace Solr

/-! ### Requests -/

/-- A request goes to the handler of an address, with the names and values and the body that are
meant for it. -/
structure Meant (method : Http.Method) (url : String) (pairs : List (String × String))
    (body : Option Value) (request : Http.Request) : Prop where
  method : request.method = method
  body : request.body = body
  /-- What it says in its query is read from it behind what the address says there itself. -/
  address : ∃ handler, Url.Address.parse url = .ok handler ∧
    request.address.scheme = handler.scheme ∧ request.address.host = handler.host ∧
    request.address.port = handler.port ∧ request.address.path = handler.path ∧
    request.address.pairs = handler.pairs ++ pairs

/-- What a selection says in its query. -/
def Client.selecting (filter fields : String) (rows start : Nat) : List (String × String) :=
  [("q", "*:*"), ("fq", filter), ("fl", fields), ("rows", toString rows),
    ("start", toString start), ("sort", "id asc"), ("wt", "json")]

/-- A request names documents by a filter. -/
inductive Filters (filter : String) (request : Http.Request) : Prop
  /-- It asks for those that pass. -/
  | asking (method : request.method = .get) (pair : ("fq", filter) ∈ request.address.pairs)
  /-- It has those that pass removed. -/
  | removing (method : request.method = .post)
      (body : request.body = some (Client.deletion filter))

/-- A selection asks for the documents that pass its filter. -/
theorem filters_of_selecting {url filter fields : String} {rows start : Nat}
    {request : Http.Request}
    (meant : Meant .get url (Client.selecting filter fields rows start) none request) :
    Filters filter request := by
  obtain ⟨handler, -, -, -, -, -, pairs⟩ := meant.address
  refine .asking meant.method ?_
  rw [pairs]
  exact List.mem_append_right _ (List.mem_cons_of_mem _ List.mem_cons_self)

/-- A request that brings a document. -/
structure Brings (document : Record) (request : Http.Request) : Prop where
  method : request.method = .post
  body : request.body = some (.list [document.toValue])

namespace Client

variable {σ : Type} (client : Client σ)

/-- The client whose transport notes every exchange. -/
def noted : Client (σ × List Http.Exchange) :=
  ⟨client.settings, client.entityType, client.transport.noted⟩

section Request

variable {client} {method : Http.Method} {url : String} {pairs : List (String × String)}
  {body : Option Value} {request : Http.Request}

/-- The requests that a client builds are as they are meant. -/
theorem meant_of_request (built : client.request method url pairs body = .ok request) :
    Meant method url pairs body request := by
  unfold Client.request at built
  cases parsed : Url.Address.parse url with
  | error problem =>
    rw [parsed] at built
    cases built
  | ok handler =>
    simp only [parsed] at built
    by_cases hostless : (!handler.hasHost) = true
    · rw [if_pos hostless] at built
      cases built
    rw [if_neg hostless] at built
    generalize bared : (if handler.account.isSome = true then handler.withoutAccount
      else handler) = bare at built
    have same : bare.scheme = handler.scheme ∧ bare.host = handler.host ∧
        bare.port = handler.port ∧ bare.path = handler.path ∧ bare.query = handler.query := by
      rw [← bared]
      split
      · exact ⟨rfl, rfl, rfl, rfl, rfl⟩
      · exact ⟨rfl, rfl, rfl, rfl, rfl⟩
    obtain ⟨scheme, host, port, path, query⟩ := same
    -- names and values are added to the query alone
    have kept : (bare.withPairs pairs).scheme = bare.scheme ∧
        (bare.withPairs pairs).host = bare.host ∧ (bare.withPairs pairs).port = bare.port ∧
        (bare.withPairs pairs).path = bare.path := by
      unfold Url.Address.withPairs
      split
      · exact ⟨rfl, rfl, rfl, rfl⟩
      · exact ⟨rfl, rfl, rfl, rfl⟩
    have added : (bare.withPairs pairs).pairs = handler.pairs ++ pairs := by
      rw [Url.Address.pairs_withPairs, Url.Address.pairs_eq, query, ← Url.Address.pairs_eq]
    split at built
    · cases built
      exact ⟨rfl, rfl, handler, parsed, kept.1.trans scheme, kept.2.1.trans host,
        kept.2.2.1.trans port, kept.2.2.2.trans path, added⟩
    · cases built

/-- They go over the web. -/
theorem isHttp_of_request (built : client.request method url pairs body = .ok request) :
    request.address.isHttp = true := by
  unfold Client.request at built
  split at built
  · cases built
  simp only at built
  split at built
  · cases built
  generalize Url.Address.withPairs _ pairs = full at built
  split at built
  · next carried =>
    cases built
    exact (Bool.and_eq_true_iff.mp carried).1
  · cases built

/-- The complaint about a request that is not answered. -/
def unanswered (request : Http.Request) : String :=
  "error sending request for url (" ++ request.address.text ++ ")"

/-- A request is sent if it can be built, and its reply is handed on. -/
theorem effect_send_eq (client : Client σ) (method : Http.Method) (url : String)
    (pairs : List (String × String)) (body : Option Value) (state : σ) :
    (client.send method url pairs body).effect state =
      match client.request method url pairs body with
      | .error complaint => (.ok (.error complaint), state)
      | .ok request =>
        (match (client.transport.exchange request state).1 with
          | some reply => .ok (.ok reply)
          | none => .ok (.error (unanswered request)),
        (client.transport.exchange request state).2) := by
  unfold send Action.effect
  cases client.request method url pairs body with
  | error complaint => rfl
  | ok request =>
    simp only
    generalize client.transport.exchange request state = answer
    obtain ⟨reply | reply, reached⟩ := answer
    · rfl
    · rfl

/-- A request is sent if it can be built. It fails if it cannot, or if it is not answered. -/
theorem effect_exchange_eq (client : Client σ) (method : Http.Method) (url : String)
    (pairs : List (String × String)) (body : Option Value) (state : σ) :
    (client.exchange method url pairs body).effect state =
      match client.request method url pairs body with
      | .error complaint => (.error (.connection complaint), state)
      | .ok request =>
        (match (client.transport.exchange request state).1 with
          | some reply => .ok reply
          | none => .error (.connection (unanswered request)),
        (client.transport.exchange request state).2) := by
  unfold exchange
  rw [Action.effect_bind, effect_send_eq]
  cases client.request method url pairs body with
  | error complaint => rfl
  | ok request =>
    simp only
    generalize client.transport.exchange request state = answer
    obtain ⟨reply | reply, reached⟩ := answer
    · rfl
    · rfl

/-- The address of a handler is that of the core with the handler behind it. -/
theorem eq_of_endpoint {client : Client σ} {offset : String}
    (located : client.endpoint offset = .ok url) : url = client.settings.baseUrl ++ offset := by
  unfold endpoint at located
  simp only at located
  split at located
  · exact (Except.ok.inj located).symm
  · cases located

end Request

/-! ### What is sent is what is meant -/

/-- Carrying a request over the web that is as it is meant adds to a log only entries that pass a
test. -/
def Adding {ε : Type} (method : Http.Method) (url : String) (pairs : List (String × String))
    (body : Option Value) (log : σ → List ε) (test : ε → Prop) : Prop :=
  ∀ request, Meant method url pairs body request → request.address.isHttp = true →
    client.transport.Adds request log test

section Adding

variable {ε : Type} {log : σ → List ε} {test : ε → Prop}

section Exchange

variable {client} {method : Http.Method} {url : String} {pairs : List (String × String)}
  {body : Option Value} (adding : client.Adding method url pairs body log test)
include adding

theorem adds_send : (client.send method url pairs body).Adds log test := by
  intro state
  rw [effect_send_eq]
  cases built : client.request method url pairs body with
  | error complaint => exact ⟨[], (List.append_nil _).symm, fun _ member => by cases member⟩
  | ok request => exact adding request (meant_of_request built) (isHttp_of_request built) state

theorem adds_exchange : (client.exchange method url pairs body).Adds log test :=
  (adds_send adding).bind fun reply => by
    split
    · exact .pure _
    · exact .fail _

end Exchange

theorem adds_refuse {α : Type} (call : String) (failure : String → SearchError)
    (reply : Http.Reply) : (refuse call failure reply : Action σ α).Adds log test :=
  (Action.Adds.tell _ _ _).bind fun _ => .fail _

theorem adds_select {filter fields : String} {rows start : Nat}
    (adding : client.Adding .get (client.settings.baseUrl ++ "/select")
      (selecting filter fields rows start) none log test) :
    (client.select filter fields rows start).Adds log test := by
  refine Action.Adds.ofExcept_bind fun url located => ?_
  rw [eq_of_endpoint located]
  refine (adds_exchange adding).bind fun reply => ?_
  split
  · split
    · exact .pure _
    · exact .fail _
  · exact adds_refuse _ _ _

/-- Page after page, the ids of the documents of the type and the site are asked for, some of them
at a time and never more than may be asked for at once. -/
theorem adds_collect (adding : ∀ rows start, 0 < rows → rows ≤ client.settings.rowsMax →
      client.Adding .get (client.settings.baseUrl ++ "/select")
        (selecting client.scope "id" rows start) none log test)
    (limit start : Nat) (found : List String) :
    (client.collect limit start found).Adds log test := by
  induction left : Text.wordLimit - start using Nat.strongRecOn generalizing start found with
  | _ left ih =>
  rw [collect]
  split
  · next more =>
    have wanted : 0 < min client.settings.rowsMax (limit - found.length) :=
      Nat.lt_min.mpr ⟨client.settings.rowsMax_pos, Nat.sub_pos_of_lt more⟩
    refine (adds_select client (adding _ _ wanted (Nat.min_le_left _ _))).bind fun page => ?_
    split
    · exact .pure _
    · split
      · next some further =>
        have bounded := page.numFound_lt
        exact ih _ (by omega) _ _ rfl
      · exact .pure _
  · exact .pure _

/-- So does a listing of ids. -/
theorem adds_listing (adding : ∀ rows start, 0 < rows → rows ≤ client.settings.rowsMax →
      client.Adding .get (client.settings.baseUrl ++ "/select")
        (selecting client.scope "id" rows start) none log test)
    (limit : Option Nat) : (client.reader.ids limit).Adds log test :=
  (adds_collect client adding _ _ _).bind fun _ => (Action.Adds.tell _ _ _).bind fun _ => .pure _

theorem adds_postUpdate {body : Value} {commit : Bool}
    (adding : client.Adding .post (client.settings.baseUrl ++ "/update")
      (if commit then [("commit", "true")] else []) (some body) log test) :
    (client.postUpdate body commit).Adds log test := by
  refine Action.Adds.ofExcept_bind fun url located => ?_
  rw [eq_of_endpoint located]
  refine (adds_exchange adding).bind fun reply => ?_
  split
  · exact .pure _
  · exact adds_refuse _ _ _

end Adding

/-! ### What is noted -/

section Noted

variable {client} {method : Http.Method} {url : String} {pairs : List (String × String)}
  {body : Option Value} {test : Http.Request → Prop}

theorem adding_noted (passes : ∀ request, Meant method url pairs body request → test request) :
    client.noted.Adding method url pairs body Prod.snd fun exchange => test exchange.request :=
  fun request meant _ => client.transport.adds_noted (passes request meant)

theorem sends_select (client : Client σ) (filter fields : String) (rows start : Nat) :
    (client.noted.select filter fields rows start).Sends (Filters filter) :=
  adds_select client.noted (adding_noted fun _ => filters_of_selecting)

theorem sends_postUpdate (client : Client σ) (body : Value) (commit : Bool)
    (passes : ∀ request, request.method = .post → request.body = some body → test request) :
    (client.noted.postUpdate body commit).Sends test :=
  adds_postUpdate client.noted (adding_noted fun _ meant => passes _ meant.method meant.body)

end Noted

/-- **What is sent for a record is the document for it.** -/
theorem sends_document {record : Record} {id : String} (known : record.id? = some id)
    (commit : Bool) :
    (client.noted.index record commit).Sends (Brings (client.document record id)) := by
  unfold index
  rw [known]
  exact (sends_postUpdate client _ _ fun _ method body => ⟨method, body⟩).bind fun _ =>
    .tell _ _ _

/-- What a client sends names documents by the filter that is meant for it. -/
structure SendsFilters : Prop where
  ids : ∀ limit, (client.noted.reader.ids limit).Sends (Filters client.scope)
  find : ∀ reference, (client.noted.reader.find reference).Sends
    (Filters (referenceFilter client.scope reference))
  remove : ∀ record id, record.id? = some id → (client.noted.writer.remove record).Sends
    (Filters (referenceFilter client.scope id))
  clear : client.noted.writer.clear.Sends (Filters (siteFilter client.settings.siteId))

/-- **What a client sends names documents by the filter that is meant for it.** -/
theorem sendsFilters : client.SendsFilters where
  ids limit := adds_listing client.noted
    (fun _ _ _ _ => adding_noted fun _ => filters_of_selecting) limit
  find reference := (sends_select client _ _ _ _).bind fun _ => .pure _
  remove record id known := by
    simp only [writer, known]
    exact (sends_postUpdate client _ _ fun _ => .removing).bind fun _ => .tell _ _ _
  clear := (sends_postUpdate client _ _ fun _ => .removing).bind fun _ => .tell _ _ _

end Client

end Solr

end CatalogSync
