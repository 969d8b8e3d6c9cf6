/-
**Writing to a core.**

* `Client.order` — the request for a write, or why there is none. `verdict` — what a write comes to
  once its request was sent.
* **`effect_perform`** — every write is its request and the verdict on it, and nothing else.
* `Client.Accounts` — how a write goes: at most one request is sent, and the write is done just if
  one was sent and answered with success. **`accounts`** — this is how every write goes.
* `brings_of_order` — the request for a record brings its document.
-/

import CatalogSync.Proofs.Index.Write
import CatalogSync.Proofs.Solr.Sending

namespace CatalogSync

/-- Whether a request brings documents. -/
def Http.Request.bringsDocuments (request : Http.Request) : Bool :=
  request.method == .post &&
    match request.body with
    | some (.list _) => true
    | _ => false

namespace Solr

/-- What a write comes to once its request was sent. -/
def verdict (exchange : Http.Exchange) : Except SearchError Unit :=
  match exchange.reply with
  | none => .error (.connection (Client.unanswered exchange.request))
  | some reply =>
    if Http.isSuccess reply.status then .ok ()
    else
      .error (.indexWrite ("Update failed with status " ++ Http.statusText reply.status ++ ": " ++
        if reply.isComplete then reply.body.content else ""))

/-- A write is done just if its request was answered with success. -/
theorem verdict_eq_ok_iff {exchange : Http.Exchange} :
    verdict exchange = .ok () ↔ exchange.isAcknowledged = true := by
  unfold verdict Http.Exchange.isAcknowledged
  cases exchange.reply with
  | none => simp
  | some reply => simp

theorem verdict_of_refused {exchange : Http.Exchange} {reply : Http.Reply}
    (answered : exchange.reply = some reply) (unsuccessful : Http.isSuccess reply.status = false) :
    ∃ detail, verdict exchange = .error (.indexWrite detail) := by
  unfold verdict
  simp only [answered, unsuccessful]
  exact ⟨_, rfl⟩

theorem verdict_of_unanswered {exchange : Http.Exchange} (missing : exchange.reply = none) :
    ∃ detail, verdict exchange = .error (.connection detail) := by
  unfold verdict
  simp only [missing]
  exact ⟨_, rfl⟩

namespace Client

variable {σ : Type} (client : Client σ)

/-- The body for a write, and whether it is made visible. A record has to have an id. -/
def payload? : IndexWrite → Option (Value × Bool)
  | .insert record => record.id?.map fun id => (.list [(client.document record id).toValue], true)
  | .update record deferCommit =>
    record.id?.map fun id => (.list [(client.document record id).toValue], !deferCommit)
  | .remove record => record.id?.map fun id => (deletion (referenceFilter client.scope id), true)
  | .clear => some (deletion (siteFilter client.settings.siteId), true)
  | .commit => some (.object [("commit", .object [])], false)

/-- The request that posts a body to the update handler, or why there is none. -/
def posting (body : Value) (commit : Bool) : Except SearchError Http.Request :=
  match client.endpoint "/update" with
  | .error failure => .error failure
  | .ok url =>
    (client.request .post url (if commit then [("commit", "true")] else []) (some body)).mapError
      .connection

/-- The request for a write, or why there is none. -/
def order (write : IndexWrite) : Except SearchError Http.Request :=
  match client.payload? write with
  | none => .error missingId
  | some (body, commit) => client.posting body commit

/-- What a write does, given the request for it or the reason why there is none. -/
def carriedOut (state : σ) : Except SearchError Http.Request → Except SearchError Unit × σ
  | .error failure => (.error failure, state)
  | .ok request =>
    (verdict ⟨request, (client.transport.exchange request state).1⟩,
      (client.transport.exchange request state).2)

theorem effect_postUpdate (body : Value) (commit : Bool) (state : σ) :
    (client.postUpdate body commit).effect state =
      client.carriedOut state (client.posting body commit) := by
  unfold postUpdate posting
  rw [Action.effect_bind, Action.effect_ofExcept]
  cases client.endpoint "/update" with
  | error failure => rfl
  | ok url =>
    simp only
    rw [Action.effect_bind, effect_exchange_eq]
    cases client.request .post url (if commit then [("commit", "true")] else []) (some body) with
    | error complaint => rfl
    | ok request =>
      unfold carriedOut verdict
      simp only [Except.mapError]
      cases (client.transport.exchange request state).1 with
      | none => rfl
      | some reply =>
        simp only
        split
        · rfl
        · rfl

/-- Telling of an event after an action changes nothing of what the action comes to. -/
theorem effect_told (action : Action σ Unit) (level : Level) (message : String)
    (fields : List (String × Detail)) (state : σ) :
    (action >>= fun _ => .tell level message fields).effect state = action.effect state := by
  rw [Action.effect_bind]
  rcases action.effect state with ⟨failure | done, reached⟩
  · rfl
  · rfl

/-- **A write is its request and the verdict on it.** -/
theorem effect_perform (write : IndexWrite) (state : σ) :
    (write.perform client.writer).effect state = client.carriedOut state (client.order write) := by
  have indexed (record : Record) (commit : Bool) : (client.index record commit).effect state =
      client.carriedOut state
        (match record.id?.map fun id => (.list [(client.document record id).toValue], commit) with
        | none => .error missingId
        | some (body, commit) => client.posting body commit) := by
    unfold index
    cases record.id? with
    | none => rfl
    | some id => exact (effect_told _ _ _ _ _).trans (effect_postUpdate client _ _ _)
  have removed (record : Record) : (client.writer.remove record).effect state =
      client.carriedOut state
        (match record.id?.map fun id => (deletion (referenceFilter client.scope id), true) with
        | none => .error missingId
        | some (body, commit) => client.posting body commit) := by
    simp only [writer]
    cases record.id? with
    | none => rfl
    | some id => exact (effect_told _ _ _ _ _).trans (effect_postUpdate client _ _ _)
  cases write with
  | insert record => exact indexed record true
  | update record deferCommit => exact indexed record (!deferCommit)
  | remove record => exact removed record
  | clear => exact (effect_told _ _ _ _ _).trans (effect_postUpdate client _ true state)
  | commit => exact effect_postUpdate client _ false state

/-! ### What is sent -/

section Order

variable {client} {write : IndexWrite} {request : Http.Request}

theorem meant_of_posting {body : Value} {commit : Bool}
    (built : client.posting body commit = .ok request) :
    request.method = .post ∧ request.body = some body := by
  unfold posting at built
  cases located : client.endpoint "/update" with
  | error failure =>
    rw [located] at built
    cases built
  | ok url =>
    rw [located] at built
    cases made : client.request .post url (if commit then [("commit", "true")] else [])
        (some body) with
    | error complaint =>
      simp only [made, Except.mapError] at built
      cases built
    | ok request =>
      simp only [made, Except.mapError] at built
      cases built
      have meant := meant_of_request made
      exact ⟨meant.method, meant.body⟩

/-- A request is sent for what there is to write. -/
theorem payload?_of_order (ordered : client.order write = .ok request) :
    ∃ body commit, client.payload? write = some (body, commit) ∧ request.method = .post ∧
      request.body = some body := by
  unfold order at ordered
  cases carried : client.payload? write with
  | none =>
    rw [carried] at ordered
    cases ordered
  | some payload =>
    obtain ⟨body, commit⟩ := payload
    rw [carried] at ordered
    exact ⟨body, commit, rfl, meant_of_posting ordered⟩

/-- The request for a record brings its document. -/
theorem brings_of_order {record : Record} {deferCommit : Bool}
    (ordered : client.order (.update record deferCommit) = .ok request) :
    ∃ id, record.id? = some id ∧ Brings (client.document record id) request := by
  obtain ⟨body, commit, carried, method, said⟩ := payload?_of_order ordered
  obtain ⟨id, known, same⟩ := Option.map_eq_some_iff.mp carried
  cases same
  exact ⟨id, known, method, said⟩

theorem payload?_of_nameless (nameless : write.isNameless = true) :
    client.payload? write = none := by
  cases write with
  | insert record =>
    have unknown : record.id? = none := Option.isNone_iff_eq_none.mp nameless
    rw [payload?, unknown, Option.map_none]
  | update record deferCommit =>
    have unknown : record.id? = none := Option.isNone_iff_eq_none.mp nameless
    rw [payload?, unknown, Option.map_none]
  | remove record =>
    have unknown : record.id? = none := Option.isNone_iff_eq_none.mp nameless
    rw [payload?, unknown, Option.map_none]
  | clear => cases nameless
  | commit => cases nameless

/-- Nothing is sent for a record without an id. -/
theorem order_of_nameless (nameless : write.isNameless = true) :
    client.order write = .error missingId := by
  unfold order
  rw [payload?_of_nameless nameless]

/-- Nothing is sent if the address of the core cannot be read. -/
theorem order_of_unparsable (write : IndexWrite)
    (unparsable : (Url.Address.parse client.settings.baseUrl).isOk = false) :
    ∃ failure, client.order write = .error failure := by
  have nowhere : ∃ failure, client.endpoint "/update" = .error failure := by
    cases parsed : Url.Address.parse client.settings.baseUrl with
    | error problem =>
      simp only [endpoint, parsed]
      exact ⟨_, rfl⟩
    | ok address =>
      rw [parsed] at unparsable
      cases unparsable
  obtain ⟨failure, located⟩ := nowhere
  unfold order
  cases client.payload? write with
  | none => exact ⟨_, rfl⟩
  | some payload =>
    refine ⟨failure, ?_⟩
    unfold posting
    simp only [located]

end Order

/-! ### How a write goes -/

theorem endpoint_noted (offset : String) :
    client.noted.endpoint offset = client.endpoint offset := by
  simp only [endpoint, noted]

theorem request_noted : client.noted.request = client.request := by
  funext method url pairs body
  simp only [request, authorization?, noted]

theorem order_noted (write : IndexWrite) : client.noted.order write = client.order write := by
  simp only [order, payload?, document, indexId, scope, posting, endpoint_noted, request_noted]
  simp only [noted]

/-- What a write does, with its exchange noted. -/
theorem effect_perform_noted (write : IndexWrite) (start : σ × List Http.Exchange) :
    (write.perform client.noted.writer).effect start =
      match client.order write with
      | .error failure => (.error failure, start)
      | .ok request =>
        (verdict ⟨request, (client.transport.exchange request start.1).1⟩,
          (client.transport.exchange request start.1).2,
          start.2 ++ [⟨request, (client.transport.exchange request start.1).1⟩]) := by
  rw [effect_perform, order_noted]
  cases client.order write with
  | error failure => rfl
  | ok request => rfl

/-- How a write goes, with what was sent for it, if anything was. -/
structure Accounts (write : IndexWrite) (start : σ × List Http.Exchange)
    (outcome : Except SearchError Unit × σ × List Http.Exchange) (sent : Option Http.Exchange) :
    Prop where
  noted : outcome.2.2 = start.2 ++ sent.toList
  /-- That it is noted makes no difference. -/
  plain : (outcome.1, outcome.2.1) = (write.perform client.writer).effect start.1
  ordered : ∀ exchange ∈ sent, client.order write = .ok exchange.request
  posts : ∀ exchange ∈ sent, exchange.request.method = .post
  answered : ∀ exchange ∈ sent,
    exchange.reply = (client.transport.exchange exchange.request start.1).1
  done : outcome.1 = .ok () ↔ ∃ exchange ∈ sent, exchange.isAcknowledged = true
  refused : ∀ exchange ∈ sent, ∀ reply ∈ exchange.reply, Http.isSuccess reply.status = false →
    ∃ detail, outcome.1 = .error (.indexWrite detail)
  unanswered : ∀ exchange ∈ sent, exchange.reply = none →
    ∃ detail, outcome.1 = .error (.connection detail)
  nameless : write.isNameless = true → sent = none ∧ outcome.1 = .error missingId
  unparsable : (Url.Address.parse client.settings.baseUrl).isOk = false →
    sent = none ∧ ∃ failure, outcome.1 = .error failure

/-- **Every write sends one request at most, and is done just if one was answered with success.** -/
theorem accounts (write : IndexWrite) (start : σ × List Http.Exchange) :
    ∃ sent, client.Accounts write start ((write.perform client.noted.writer).effect start)
      sent := by
  rw [effect_perform_noted]
  cases ordered : client.order write with
  | error failure =>
    refine ⟨none, ?_⟩
    constructor
    case noted => exact (List.append_nil _).symm
    case plain => rw [effect_perform, ordered]; rfl
    case ordered | posts | answered | refused | unanswered => exact fun _ member => by cases member
    case done => simp
    case nameless =>
      intro nameless
      rw [order_of_nameless nameless] at ordered
      cases ordered
      exact ⟨rfl, rfl⟩
    case unparsable => exact fun _ => ⟨rfl, failure, rfl⟩
  | ok request =>
    refine ⟨some ⟨request, (client.transport.exchange request start.1).1⟩, ?_⟩
    constructor
    case noted => rfl
    case plain => rw [effect_perform, ordered]; rfl
    case ordered =>
      rintro _ ⟨⟩
      exact ordered
    case posts =>
      rintro _ ⟨⟩
      obtain ⟨-, -, -, method, -⟩ := payload?_of_order ordered
      exact method
    case answered =>
      rintro _ ⟨⟩
      rfl
    case done => simp [verdict_eq_ok_iff]
    case refused =>
      rintro _ ⟨⟩ reply answered unsuccessful
      exact verdict_of_refused answered unsuccessful
    case unanswered =>
      rintro _ ⟨⟩ missing
      exact verdict_of_unanswered missing
    case nameless =>
      intro nameless
      rw [order_of_nameless nameless] at ordered
      cases ordered
    case unparsable =>
      intro unparsable
      obtain ⟨failure, refused⟩ := order_of_unparsable write unparsable
      rw [refused] at ordered
      cases ordered

end Client

end Solr

end CatalogSync
