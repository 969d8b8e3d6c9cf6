/-
**Collecting all ids page after page.**

* `Page.Excerpt` — a page that an honest engine may give: some of the documents from an offset on,
  no more than were asked for, and at least one as long as there are any.
* `Client.Asks` — a request that asks the select handler of a core for the ids of a number of
  documents from an offset on.
* `Client.Serves` — an engine that holds some documents stands behind a client, and answers each
  such request with such a page.
* `asks_of_request` — the requests that a client builds ask for what it wants.
* **`effect_collect`** — a client that collects ids finds those of the documents in their order,
  each time it occurs, up to the number of ids that it wants. `effect_ids_take` says so of its
  listing, and `effect_ids` is the case of a client that wants all of them.
* `Shelf.transport` — an engine in memory, and `Shelf.serves` — it stands behind a client that
  reaches it.

How many documents the engine puts on a page, and how many it is asked for, does not matter.
-/

import CatalogSync.Proofs.Solr.Sending

namespace CatalogSync

/-- Whether a reply is a success that carries a page. -/
structure Http.Reply.Carries (reply : Http.Reply) (page : Solr.Page) : Prop where
  success : Http.isSuccess reply.status = true
  complete : reply.isComplete = true
  written : reply.body.value?.bind Solr.Page.ofValue? = some page

namespace Solr

/-- A number is read back from its digits. -/
theorem ofDigitChars_repr (number : Nat) : Nat.ofDigitChars 10 number.repr.toList 0 = number := by
  rw [Nat.toList_repr]
  exact Nat.ofDigitChars_toDigits (by decide) (by decide)

/-- Some of the documents from an offset on, as an honest engine puts them on a page. -/
structure Page.Excerpt (page : Page) (documents : List Record) (rows start : Nat) : Prop where
  /-- All documents are counted. -/
  counted : page.numFound = documents.length
  /-- None is left out, and their order is kept. -/
  inOrder : page.docs <+: documents.drop start
  /-- No more are given than were asked for. -/
  few : page.docs.length ≤ rows
  /-- Something is given as long as there is something. -/
  some : 0 < rows → start < documents.length → page.docs ≠ []

namespace Page.Excerpt

variable {page : Page} {documents : List Record} {rows start : Nat}
  (excerpt : page.Excerpt documents rows start)
include excerpt

/-- The ids of a page are the first ones that are still to be found, and the rest is found from the
end of the page on. -/
theorem take_eq {wanted : Nat} (enough : rows ≤ wanted) :
    ((documents.drop start).filterMap Record.id?).take wanted =
      page.ids ++ ((documents.drop (start + page.docs.length)).filterMap Record.id?).take
        (wanted - page.ids.length) := by
  obtain ⟨rest, split⟩ := excerpt.inOrder
  have onwards : documents.drop (start + page.docs.length) = rest := by
    rw [← List.drop_drop, ← split, List.drop_left]
  have short : page.ids.length ≤ wanted :=
    Nat.le_trans (List.length_filterMap_le _ _) (Nat.le_trans excerpt.few enough)
  rw [onwards, ← split, List.filterMap_append]
  show (page.ids ++ _).take wanted = _
  rw [List.take_append, List.take_of_length_le short]

/-- A page without documents is the end. -/
theorem drop_eq_nil (wanted : 0 < rows) (none : page.docs.length = 0) :
    documents.drop start = [] := by
  refine List.drop_of_length_le (Nat.le_of_not_lt fun further => ?_)
  exact excerpt.some wanted further (List.length_eq_zero_iff.mp none)

end Page.Excerpt

/-- As many documents as are asked for, or all that there are. -/
theorem Page.excerpt_slice {documents : List Record} (few : documents.length < Text.wordLimit)
    (rows start : Nat) :
    Excerpt ⟨documents.length, (documents.drop start).take rows, few⟩ documents rows start where
  counted := rfl
  inOrder := List.take_prefix _ _
  few := List.length_take_le _ _
  some wanted inside nothing := by
    have lengths := congrArg List.length nothing
    simp only [List.length_take, List.length_drop, List.length_nil] at lengths
    omega

namespace Client

variable {σ : Type} (client : Client σ)

/-- The address of the select handler, as it is written. -/
def selectUrl : String := client.settings.baseUrl ++ "/select"

/-- What a request for ids says in its query. -/
def selection (rows start : Nat) : List (String × String) :=
  [("q", "*:*"), ("fq", client.scope), ("fl", "id"), ("rows", toString rows),
    ("start", toString start), ("sort", "id asc"), ("wt", "json")]

/-- A request that asks the select handler for the ids of a number of documents from an offset on.
-/
structure Asks (rows start : Nat) (request : Http.Request) : Prop where
  method : request.method = .get
  body : request.body = none
  /-- It goes to the handler, and what it asks for is read from its query. -/
  address : ∃ handler, Url.Address.parse client.selectUrl = .ok handler ∧
    request.address.scheme = handler.scheme ∧ request.address.host = handler.host ∧
    request.address.port = handler.port ∧ request.address.path = handler.path ∧
    request.address.pairs = handler.pairs ++ client.selection rows start

/-- An engine that holds some documents, in the states that pass a test, stands behind a client. -/
structure Serves (documents : List Record) (holds : σ → Prop) : Prop where
  /-- The address of the core is one. -/
  base : ∃ address, Url.Address.parse client.settings.baseUrl = .ok address
  /-- Requests for ids can be sent there. -/
  sends : ∀ rows start, 0 < rows → rows ≤ client.settings.rowsMax → start ≤ documents.length →
    ∃ request, client.request .get client.selectUrl (client.selection rows start) none =
      .ok request
  /-- The engine answers them honestly and goes on to hold the documents. -/
  answers : ∀ rows start request state, holds state → client.Asks rows start request →
    ∃ reply page reached, client.transport.exchange request state = (some reply, reached) ∧
      holds reached ∧ reply.Carries page ∧ page.Excerpt documents rows start

variable {client}

/-! ### One request -/

/-- The requests that a client builds ask for what it wants. -/
theorem asks_of_request {rows start : Nat} {request : Http.Request}
    (built : client.request .get client.selectUrl (client.selection rows start) none =
      .ok request) : client.Asks rows start request :=
  have meant := meant_of_request built
  ⟨meant.method, meant.body, meant.address⟩

/-- A request that is answered yields its reply. -/
theorem effect_exchange {method : Http.Method} {url : String} {pairs : List (String × String)}
    {body : Option Value} {request : Http.Request} {reply : Http.Reply} {state reached : σ}
    (built : client.request method url pairs body = .ok request)
    (answered : client.transport.exchange request state = (some reply, reached)) :
    (client.exchange method url pairs body).effect state = (.ok reply, reached) := by
  rw [effect_exchange_eq, built]
  simp only [answered]

variable {documents : List Record} {holds : σ → Prop} (serves : client.Serves documents holds)
include serves

/-- A client gets an honest page. -/
theorem effect_select {rows start : Nat} (wanted : 0 < rows)
    (bounded : rows ≤ client.settings.rowsMax) (inside : start ≤ documents.length) {state : σ}
    (holding : holds state) :
    ∃ page reached, (client.select client.scope "id" rows start).effect state =
      (.ok page, reached) ∧ holds reached ∧ page.Excerpt documents rows start := by
  obtain ⟨address, parsed⟩ := serves.base
  obtain ⟨request, built⟩ := serves.sends rows start wanted bounded inside
  obtain ⟨reply, page, reached, answered, still, carries, excerpt⟩ :=
    serves.answers rows start request state holding (asks_of_request built)
  have addressed : (Action.ofExcept (client.endpoint "/select")).effect state =
      (.ok client.selectUrl, state) := by
    rw [Action.effect_ofExcept]
    unfold endpoint
    simp only [parsed]
    rfl
  refine ⟨page, reached, ?_, still, excerpt⟩
  refine (Action.effect_bind_of_ok addressed _).trans
    ((Action.effect_bind_of_ok (effect_exchange built answered) _).trans ?_)
  rw [carries.success, carries.complete]
  simp only [if_true, carries.written]
  rfl

/-! ### Page after page -/

/-- **A client finds the ids of the documents in their order, up to the number that it wants.** -/
theorem effect_collect (limit : Nat) {start : Nat} (inside : start ≤ documents.length)
    (found : List String) {state : σ} (holding : holds state) :
    ∃ reached, (client.collect limit start found).effect state =
        (.ok (found ++
          ((documents.drop start).filterMap Record.id?).take (limit - found.length)), reached) ∧
      holds reached := by
  -- the offset comes closer to the number of documents with every page
  induction left : documents.length - start using Nat.strongRecOn
    generalizing start found state with
  | _ left ih =>
  rw [collect]
  rcases Nat.lt_or_ge found.length limit with more | enough
  case inr =>
    rw [if_neg (Nat.not_lt_of_ge enough), Nat.sub_eq_zero_of_le enough, List.take_zero,
      List.append_nil]
    exact ⟨state, rfl, holding⟩
  rw [if_pos more]
  have wanted : 0 < min client.settings.rowsMax (limit - found.length) :=
    Nat.lt_min.mpr ⟨client.settings.rowsMax_pos, Nat.sub_pos_of_lt more⟩
  have bounded : min client.settings.rowsMax (limit - found.length) ≤ limit - found.length :=
    Nat.min_le_right _ _
  obtain ⟨page, next, selected, still, excerpt⟩ :=
    effect_select serves wanted (Nat.min_le_left _ _) inside holding
  rw [Action.effect_bind_of_ok selected]
  by_cases none : page.docs.length = 0
  · rw [if_pos none, excerpt.drop_eq_nil wanted none, List.filterMap_nil, List.take_nil,
      List.append_nil]
    exact ⟨next, rfl, still⟩
  rw [if_neg none, excerpt.counted, excerpt.take_eq bounded]
  by_cases further : start + page.docs.length < documents.length
  · rw [if_pos further]
    obtain ⟨reached, collected, holding⟩ := ih (documents.length - (start + page.docs.length))
      (by omega) (Nat.le_of_lt further) (found ++ page.ids) still rfl
    refine ⟨reached, ?_, holding⟩
    rw [collected, List.length_append, Nat.sub_add_eq, List.append_assoc]
  · rw [if_neg further, List.drop_of_length_le (Nat.le_of_not_lt further), List.filterMap_nil,
      List.take_nil, List.append_nil]
    exact ⟨next, rfl, still⟩

/-- **A client that lists ids finds the first ones, as many as it asks for.** -/
theorem effect_ids_take (limit : Option Nat) {state : σ} (holding : holds state) :
    ∃ reached, (client.reader.ids limit).effect state =
        (.ok ((documents.filterMap Record.id?).take (limit.getD allIds)), reached) ∧
      holds reached := by
  obtain ⟨reached, collected, still⟩ :=
    effect_collect serves (limit.getD allIds) (Nat.zero_le documents.length) [] holding
  rw [List.nil_append, List.drop_zero, List.length_nil, Nat.sub_zero] at collected
  exact ⟨reached, (Action.effect_bind_of_ok collected _).trans
    (Action.effect_bind_of_ok (Action.effect_tell _ _ _ reached) _), still⟩

/-- **A client that asks for all ids finds those of all documents.** -/
theorem effect_ids {state : σ} (holding : holds state) :
    ∃ reached, (client.reader.ids none).effect state =
      (.ok (documents.filterMap Record.id?), reached) ∧ holds reached := by
  -- a page counts the documents, so there are fewer of them than ids that would be taken
  obtain ⟨page, -, -, -, excerpt⟩ := effect_select serves client.settings.rowsMax_pos
    Nat.le.refl (Nat.zero_le documents.length) holding
  have counted : documents.length < Text.wordLimit := excerpt.counted ▸ page.numFound_lt
  have short : (documents.filterMap Record.id?).length ≤ allIds :=
    Nat.le_trans (List.length_filterMap_le _ _) (Nat.le_sub_one_of_lt counted)
  obtain ⟨reached, listed, still⟩ := effect_ids_take serves none holding
  rw [Option.getD_none, List.take_of_length_le short] at listed
  exact ⟨reached, listed, still⟩

end Client

/-! ### An engine in memory -/

namespace Shelf

/-- The number that a query gives under a name. -/
def asked (request : Http.Request) (name : String) : Nat :=
  (request.address.pairs.lookup name).elim 0 fun digits =>
    Nat.ofDigitChars 10 digits.toList 0

/-- A page as it is written. -/
def written (documents : List Record) (rows start : Nat) : Value :=
  .object [("response", .object [("numFound", .number documents.length),
    ("docs", .list (((documents.drop start).take rows).map Record.toValue))])]

/-- An engine that keeps its documents as they are and gives as many of them as it is asked for. -/
def transport : Http.Transport (List Record) where
  exchange request documents :=
    (some ⟨200, .value (written documents (asked request "rows") (asked request "start")), true⟩,
      documents)

theorem asked_of_lookup {request : Http.Request} {name : String} {number : Nat}
    (given : request.address.pairs.lookup name = some (toString number)) :
    asked request name = number := by
  unfold asked
  rw [given]
  exact ofDigitChars_repr number

variable {documents : List Record}
  (legible : ∀ document ∈ documents, Record.ofValue? document.toValue.canonical = some document)
include legible

theorem mapM_toValue :
    (documents.map Record.toValue).mapM (fun item => Record.ofValue? item.canonical) =
      some documents := by
  induction documents with
  | nil => rfl
  | cons document rest ih =>
    rw [List.map_cons, List.mapM_cons, legible document List.mem_cons_self,
      ih fun other member => legible other (List.mem_cons_of_mem document member)]
    rfl

/-- A written page is read as the documents that it was written from. -/
theorem ofValue?_written (few : documents.length < Text.wordLimit) (rows start : Nat) :
    Page.ofValue? (written documents rows start) =
      some ⟨documents.length, (documents.drop start).take rows, few⟩ := by
  have shown : (((documents.drop start).take rows).map Record.toValue).mapM
      (fun item => Record.ofValue? item.canonical) = some ((documents.drop start).take rows) :=
    mapM_toValue fun document member =>
      legible document (List.mem_of_mem_drop (List.mem_of_mem_take member))
  have bounded : 0 ≤ (documents.length : Int) ∧ (documents.length : Int).toNat < Text.wordLimit :=
    ⟨Int.natCast_nonneg _, few⟩
  show Page.ofParts? (.number documents.length) (.list _) = _
  unfold Page.ofParts?
  simp only [dif_pos bounded, shown]
  rfl

/-- Such an engine stands behind every client that reaches it. -/
theorem serves {client : Client (List Record)} (behind : client.transport = transport)
    (few : documents.length < Text.wordLimit)
    (base : ∃ address, Url.Address.parse client.settings.baseUrl = .ok address)
    (plain : ∀ handler, Url.Address.parse client.selectUrl = .ok handler → handler.query = none)
    (sends : ∀ rows start, 0 < rows → rows ≤ client.settings.rowsMax →
      start ≤ documents.length → ∃ request,
        client.request .get client.selectUrl (client.selection rows start) none = .ok request) :
    client.Serves documents (· = documents) := by
  refine ⟨base, sends, fun rows start request state holding asks => ?_⟩
  obtain ⟨handler, parsed, -, -, -, -, pairs⟩ := asks.address
  rw [Url.Address.pairs_eq handler, plain handler parsed] at pairs
  have rowsAsked : asked request "rows" = rows := asked_of_lookup (by rw [pairs]; rfl)
  have startAsked : asked request "start" = start := asked_of_lookup (by rw [pairs]; rfl)
  have answered : client.transport.exchange request state =
      (some ⟨200, .value (written documents rows start), true⟩, documents) := by
    rw [behind, holding, ← rowsAsked, ← startAsked]
    rfl
  refine ⟨_, ⟨documents.length, (documents.drop start).take rows, few⟩, documents, answered, rfl,
    ⟨rfl, rfl, ofValue?_written legible few rows start⟩, Page.excerpt_slice few rows start⟩

end Shelf

end Solr

end CatalogSync
