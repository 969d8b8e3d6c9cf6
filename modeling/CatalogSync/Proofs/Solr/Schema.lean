/-
**A core as a source of schemas.**

* `adds_isAvailable`, `adds_fetchSchema` — what is sent to see whether the core is there, and for
  its schema in a place.
* `Client.looking` — the request for what is at a path below the address of the core.
* `isAvailable_ok` — whether the core is there is always known, and **`isAvailable_iff`** — it is
  just if it answers with success.
* **`fetchSchema_http_iff`**, **`fetchSchema_ok_iff`** — fetching a schema fails as an answer of the
  core just if the core answers without success, and it yields what a success brings.
-/

import CatalogSync.Proofs.Solr.Sending

namespace CatalogSync.Solr.Client

variable {σ : Type} (client : Client σ)

/-! ### What is sent -/

section Adding

variable {ε : Type} {log : σ → List ε} {test : ε → Prop}

theorem adds_isAvailable (adding : client.Adding .get (client.settings.baseUrl ++ "/admin/ping")
    [("wt", "json")] none log test) : client.isAvailable.Adds log test := by
  unfold isAvailable
  split
  · exact (Action.Adds.tell _ _ _).bind fun _ => .pure _
  · next url located =>
    rw [eq_of_endpoint located]
    refine (adds_send adding).bind fun answer => ?_
    split
    · exact (Action.Adds.tell _ _ _).bind fun _ => .pure _
    · split
      · exact .pure _
      · exact (Action.Adds.tell _ _ _).bind fun _ => .pure _

theorem adds_fetchSchema (location : SchemaLocation) (adding : client.Adding .get
    (client.settings.baseUrl ++ location.offset) [] none log test) :
    (client.fetchSchema location).Adds log test := by
  refine Action.Adds.ofExcept_bind fun url located => ?_
  rw [eq_of_endpoint located]
  refine (adds_exchange adding).bind fun reply => ?_
  split
  · exact .fail _
  · split
    · exact .pure _
    · exact .fail _

end Adding

/-! ### What is answered -/

/-- The request for what is at a path below the address of the core, or why there is none. -/
def looking (offset : String) (pairs : List (String × String)) :
    Except SearchError Http.Request :=
  match client.endpoint offset with
  | .error failure => .error failure
  | .ok url => (client.request .get url pairs none).mapError .connection

theorem eq_connection_of_endpoint {client : Client σ} {offset : String} {failure : SearchError}
    (refused : client.endpoint offset = .error failure) :
    ∃ complaint, failure = .connection complaint := by
  unfold endpoint at refused
  simp only at refused
  split at refused
  · cases refused
  · exact ⟨_, (Except.error.inj refused).symm⟩

/-- A request that is not made is no answer of the core. -/
theorem isHttp_of_looking {client : Client σ} {offset : String} {pairs : List (String × String)}
    {failure : SearchError} (refused : client.looking offset pairs = .error failure) :
    failure.isHttp = false := by
  unfold looking at refused
  cases located : client.endpoint offset with
  | error problem =>
    simp only [located, Except.error.injEq] at refused
    obtain ⟨complaint, rfl⟩ := eq_connection_of_endpoint located
    rw [← refused]
    rfl
  | ok url =>
    simp only [located] at refused
    cases made : client.request .get url pairs none with
    | error complaint =>
      rw [made] at refused
      cases refused
      rfl
    | ok request =>
      rw [made] at refused
      cases refused

theorem effect_isAvailable (state : σ) :
    client.isAvailable.effect state =
      match client.looking "/admin/ping" [("wt", "json")] with
      | .error _ => (.ok false, state)
      | .ok request =>
        (.ok ((client.transport.exchange request state).1.any fun reply =>
          Http.isSuccess reply.status), (client.transport.exchange request state).2) := by
  unfold isAvailable looking
  cases client.endpoint "/admin/ping" with
  | error failure => rfl
  | ok url =>
    simp only
    rw [Action.effect_bind, effect_send_eq]
    cases client.request .get url [("wt", "json")] none with
    | error complaint => rfl
    | ok request =>
      simp only [Except.mapError]
      rcases client.transport.exchange request state with ⟨reply | reply, reached⟩
      · rfl
      · simp only [Option.any_some]
        cases Http.isSuccess reply.status
        · rfl
        · rfl

/-- What comes of a request for the schema in a place, given the reply to it. -/
def schemaIn (url : String) (request : Http.Request) :
    Option Http.Reply → Except SearchError String
  | none => .error (.connection (unanswered request))
  | some reply =>
    if !Http.isSuccess reply.status then .error (.http reply.status url)
    else if reply.isComplete then .ok reply.body.content
    else .error (.connection undecodable)

theorem effect_fetchSchema (location : SchemaLocation) (state : σ) :
    (client.fetchSchema location).effect state =
      match client.looking location.offset [] with
      | .error failure => (.error failure, state)
      | .ok request =>
        (schemaIn (client.settings.baseUrl ++ location.offset) request
          (client.transport.exchange request state).1,
          (client.transport.exchange request state).2) := by
  unfold fetchSchema looking
  rw [Action.effect_bind, Action.effect_ofExcept]
  cases located : client.endpoint location.offset with
  | error failure => rfl
  | ok url =>
    obtain rfl := eq_of_endpoint located
    simp only
    rw [Action.effect_bind, effect_exchange_eq]
    cases client.request .get (client.settings.baseUrl ++ location.offset) [] none with
    | error complaint => rfl
    | ok request =>
      simp only [Except.mapError]
      rcases client.transport.exchange request state with ⟨reply | reply, reached⟩
      · rfl
      · unfold schemaIn
        simp only
        split
        · rfl
        · split
          · rfl
          · rfl

/-! ### What the answers mean -/

variable {client} {offset : String} {pairs : List (String × String)} {state : σ}

/-- The request goes where it is meant to go. -/
theorem meant_of_looking {request : Http.Request}
    (looked : client.looking offset pairs = .ok request) :
    Meant .get (client.settings.baseUrl ++ offset) pairs none request := by
  unfold looking at looked
  cases located : client.endpoint offset with
  | error problem =>
    rw [located] at looked
    cases looked
  | ok url =>
    simp only [located] at looked
    cases made : client.request .get url pairs none with
    | error complaint =>
      rw [made] at looked
      cases looked
    | ok built =>
      rw [made] at looked
      cases looked
      exact eq_of_endpoint located ▸ meant_of_request made

variable (client state) in
/-- Whether the core is there is always known. -/
theorem isAvailable_ok : ∃ available, (client.isAvailable.effect state).1 = .ok available := by
  rw [effect_isAvailable]
  cases client.looking "/admin/ping" [("wt", "json")] with
  | error failure => exact ⟨_, rfl⟩
  | ok request => exact ⟨_, rfl⟩

/-- **The core is there just if it answers with success.** -/
theorem isAvailable_iff :
    (client.isAvailable.effect state).1 = .ok true ↔
      ∃ request reply, client.looking "/admin/ping" [("wt", "json")] = .ok request ∧
        (client.transport.exchange request state).1 = some reply ∧
          Http.isSuccess reply.status = true := by
  rw [effect_isAvailable]
  cases client.looking "/admin/ping" [("wt", "json")] with
  | error failure => simp
  | ok request => simp [Option.any_eq_true]

variable {location : SchemaLocation}

/-- **Fetching a schema fails as an answer of the core just if the core answers without
success.** -/
theorem fetchSchema_http_iff :
    (∃ failure, ((client.fetchSchema location).effect state).1 = .error failure ∧
        failure.isHttp = true) ↔
      ∃ request reply, client.looking location.offset [] = .ok request ∧
        (client.transport.exchange request state).1 = some reply ∧
          Http.isSuccess reply.status = false := by
  rw [effect_fetchSchema]
  cases looked : client.looking location.offset [] with
  | error failure => simp [isHttp_of_looking looked]
  | ok request =>
    cases answered : (client.transport.exchange request state).1 with
    | none => simp [schemaIn, answered, SearchError.isHttp]
    | some reply =>
      cases success : Http.isSuccess reply.status with
      | false => simp [schemaIn, answered, success, SearchError.isHttp]
      | true =>
        cases complete : reply.isComplete with
        | false => simp [schemaIn, answered, success, complete, SearchError.isHttp]
        | true => simp [schemaIn, answered, success, complete]

/-- **It yields the body of a success, if all of it arrived.** -/
theorem fetchSchema_ok_iff {content : String} :
    ((client.fetchSchema location).effect state).1 = .ok content ↔
      ∃ request reply, client.looking location.offset [] = .ok request ∧
        (client.transport.exchange request state).1 = some reply ∧
          Http.isSuccess reply.status = true ∧ reply.isComplete = true ∧
            reply.body.content = content := by
  rw [effect_fetchSchema]
  cases client.looking location.offset [] with
  | error failure => simp
  | ok request =>
    cases answered : (client.transport.exchange request state).1 with
    | none => simp [schemaIn, answered]
    | some reply =>
      cases success : Http.isSuccess reply.status with
      | false => simp [schemaIn, answered, success]
      | true =>
        cases complete : reply.isComplete with
        | false => simp [schemaIn, answered, success, complete]
        | true => simp [schemaIn, answered, success, complete]

end CatalogSync.Solr.Client
