/-
**A listing of ids comes to an end, whatever the engine answers.**

Nothing is assumed about the replies: totals may change from page to page, pages may hold more or
fewer documents than were asked for, documents may lack ids, and replies may be broken or missing.

* `Http.Reply.page?` — the page that a reply is read as.
* `pages`, `received`, `collected` — the pages that came back in some exchanges, the number of their
  documents, and the ids of those that have one.
* `Client.Follows` — a request is the one that a listing sends after some exchanges.
* `Client.Course`, `Client.Completed` — the exchanges of a listing that goes on, and those of one
  that is over. A listing goes on only after a page with documents that is not the last one.
* `Course.length_le_received`, `Course.received_lt` — each exchange of a course brings a document,
  and all of them together fewer than the total on the last page. So the offset is what moves on,
  and not the number of ids, which may stay as it is, and `Course.length_lt` bounds the exchanges.
* **`completed_remainder`** — what a listing sends is completed, and it lists what it collected.
* `Client.Bounded` and **`ids_bounded`** — apart from the first one there are no more requests than
  documents on the highest total. Each starts behind the documents received so far and asks for no
  more than what is missing, and no more ids are listed than are wanted unless some page has more
  documents than were asked for.
-/

import CatalogSync.Proofs.Solr.Enumeration
import CatalogSync.Proofs.Solr.Erasure
import Mathlib.Data.List.Induction

namespace CatalogSync

/-- The page that a reply is read as. -/
def Http.Reply.page? (reply : Http.Reply) : Option Solr.Page :=
  if Http.isSuccess reply.status then
    if reply.isComplete then reply.body.value?.bind Solr.Page.ofValue? else none
  else
    none

/-- The page that came back. -/
def Http.Exchange.page? (exchange : Http.Exchange) : Option Solr.Page :=
  exchange.reply.bind Http.Reply.page?

namespace Solr

/-! ### What came back -/

/-- The pages that came back. -/
def pages (log : List Http.Exchange) : List Page := log.filterMap Http.Exchange.page?

/-- The number of documents that were received. -/
def received (log : List Http.Exchange) : Nat := ((pages log).flatMap Page.docs).length

/-- The ids that were received. -/
def collected (log : List Http.Exchange) : List String := (pages log).flatMap Page.ids

section

variable {log : List Http.Exchange} {exchange : Http.Exchange} {page : Page}

theorem pages_append (log more : List Http.Exchange) :
    pages (log ++ more) = pages log ++ pages more := List.filterMap_append

theorem pages_concat (came : exchange.page? = some page) :
    pages (log ++ [exchange]) = pages log ++ [page] := by
  rw [pages_append, pages, pages, List.filterMap_cons_some came, List.filterMap_nil]

theorem received_append (log more : List Http.Exchange) :
    received (log ++ more) = received log + received more := by
  unfold received
  rw [pages_append, List.flatMap_append, List.length_append]

theorem received_concat (came : exchange.page? = some page) :
    received (log ++ [exchange]) = received log + page.docs.length := by
  unfold received
  rw [pages_concat came, List.flatMap_append, List.length_append, List.flatMap_singleton]

theorem collected_concat (came : exchange.page? = some page) :
    collected (log ++ [exchange]) = collected log ++ page.ids := by
  unfold collected
  rw [pages_concat came, List.flatMap_append, List.flatMap_singleton]

end

namespace Client

variable {σ : Type} (client : Client σ) (wanted : Nat)

/-! ### The exchanges of a listing -/

/-- The number of rows to ask for after some exchanges. -/
def rowsAfter (before : List Http.Exchange) : Nat :=
  min client.settings.rowsMax (wanted - (collected before).length)

/-- A request is the one that a listing sends after some exchanges. -/
structure Follows (before : List Http.Exchange) (request : Http.Request) : Prop where
  /-- There are ids missing. -/
  short : (collected before).length < wanted
  /-- It asks for some rows. -/
  some : 0 < client.rowsAfter wanted before
  /-- It asks for the documents behind those that were received. -/
  asks : client.Asks (client.rowsAfter wanted before) (received before) request

/-- The exchanges of a listing that goes on: all pages had documents and were not the last ones. -/
inductive Course : List Http.Exchange → Prop
  | start : Course []
  | page {log : List Http.Exchange} {exchange : Http.Exchange} {page : Page} (course : Course log)
    (follows : client.Follows wanted log exchange.request) (came : exchange.page? = some page)
    (some : page.docs.length ≠ 0) (further : received log + page.docs.length < page.numFound) :
    Course (log ++ [exchange])

/-- The exchanges of a listing that is over. Whatever came back for the last request, no further one
was sent. -/
inductive Completed : List Http.Exchange → Prop
  | here {log : List Http.Exchange} (course : client.Course wanted log) : Completed log
  | last {log : List Http.Exchange} {exchange : Http.Exchange} (course : client.Course wanted log)
    (follows : client.Follows wanted log exchange.request) : Completed (log ++ [exchange])

variable {client wanted}

theorem rowsAfter_pos {before : List Http.Exchange} (short : (collected before).length < wanted) :
    0 < client.rowsAfter wanted before :=
  Nat.lt_min.mpr ⟨client.settings.rowsMax_pos, Nat.sub_pos_of_lt short⟩

/-- A request asks for one number of rows only. -/
theorem Asks.rows_unique {rows start rows' start' : Nat} {request : Http.Request}
    (asks : client.Asks rows start request) (asks' : client.Asks rows' start' request) :
    rows = rows' := by
  obtain ⟨handler, parsed, -, -, -, -, pairs⟩ := asks.address
  obtain ⟨handler', parsed', -, -, -, -, pairs'⟩ := asks'.address
  obtain rfl : handler = handler' := Except.ok.inj (parsed.symm.trans parsed')
  have alike : client.selection rows start = client.selection rows' start' :=
    List.append_cancel_left (pairs.symm.trans pairs')
  have digits : rows.repr = rows'.repr := by
    simp only [selection, List.cons.injEq, Prod.mk.injEq, true_and] at alike
    exact alike.1
  calc rows = Nat.ofDigitChars 10 rows.repr.toList 0 := (ofDigitChars_repr rows).symm
    _ = Nat.ofDigitChars 10 rows'.repr.toList 0 := by rw [digits]
    _ = rows' := ofDigitChars_repr rows'

/-! ### What a course is like -/

namespace Course

variable {log before more : List Http.Exchange} {exchange : Http.Exchange}

/-- Each exchange of a course brings a document. -/
theorem length_le_received (course : client.Course wanted log) : log.length ≤ received log := by
  induction course with
  | start => exact Nat.le_refl 0
  | page course follows came some further ih =>
    rw [List.length_append, List.length_singleton, received_concat came]
    exact Nat.add_le_add ih (Nat.one_le_iff_ne_zero.mpr some)

/-- All of them together bring fewer documents than the highest total. -/
theorem received_lt (course : client.Course wanted log) (sent : log ≠ []) {most : Nat}
    (totals : ∀ page ∈ pages log, page.numFound ≤ most) : received log < most := by
  cases course with
  | start => exact absurd rfl sent
  | page course follows came some further =>
    rw [received_concat came]
    refine Nat.lt_of_lt_of_le further (totals _ ?_)
    rw [pages_concat came]
    exact List.mem_append_right _ (List.mem_singleton_self _)

/-- So there are fewer of them than documents on the highest total, if there are any. -/
theorem length_lt (course : client.Course wanted log) {most : Nat}
    (totals : ∀ page ∈ pages log, page.numFound ≤ most) : log.length < max 1 most := by
  by_cases sent : log = []
  · rw [sent]
    exact Nat.lt_of_lt_of_le Nat.one_pos (Nat.le_max_left 1 most)
  · calc log.length ≤ received log := course.length_le_received
      _ < most := course.received_lt sent totals
      _ ≤ max 1 most := Nat.le_max_right 1 most

/-- The last exchange of a course and those before it. -/
theorem unsnoc (course : client.Course wanted (log ++ [exchange])) :
    client.Course wanted log ∧ client.Follows wanted log exchange.request ∧
      received log < received (log ++ [exchange]) := by
  generalize whole : log ++ [exchange] = all at course
  cases course with
  | start => exact absurd whole (List.append_ne_nil_of_right_ne_nil _ (List.cons_ne_nil _ _))
  | page course follows came some further =>
    obtain ⟨rfl, rfl⟩ := List.append_singleton_inj.mp whole
    refine ⟨course, follows, ?_⟩
    rw [received_concat came]
    exact Nat.lt_add_of_pos_right (Nat.pos_of_ne_zero some)

/-- What precedes a part of a course is one. -/
theorem of_append (course : client.Course wanted (before ++ more)) :
    client.Course wanted before := by
  induction more using List.reverseRecOn with
  | nil => rwa [List.append_nil] at course
  | append_singleton more last ih =>
    rw [← List.append_assoc] at course
    exact ih course.unsnoc.1

/-- Each request of a course follows the exchanges before it. -/
theorem follows (course : client.Course wanted (before ++ exchange :: more)) :
    client.Follows wanted before exchange.request := by
  rw [List.append_cons] at course
  exact course.of_append.unsnoc.2.1

/-- Each exchange of a course moves the offset on. -/
theorem received_lt_received (course : client.Course wanted (before ++ exchange :: more)) :
    received before < received (before ++ exchange :: more) := by
  rw [List.append_cons] at course ⊢
  calc received before < received (before ++ [exchange]) := course.of_append.unsnoc.2.2
    _ ≤ received (before ++ [exchange] ++ more) := by
      rw [received_append (before ++ [exchange])]
      exact Nat.le_add_right _ _

end Course

namespace Completed

variable {log before after : List Http.Exchange} {exchange : Http.Exchange}

/-- What precedes an exchange is a course, and its request follows it. -/
theorem split (completed : client.Completed wanted (before ++ exchange :: after)) :
    client.Course wanted before ∧ client.Follows wanted before exchange.request := by
  generalize whole : before ++ exchange :: after = log at completed
  cases completed with
  | here course =>
    subst whole
    exact ⟨course.of_append, course.follows⟩
  | last course follows =>
    rcases List.eq_nil_or_concat after with rfl | ⟨after, latest, rfl⟩
    · obtain ⟨rfl, rfl⟩ := List.append_singleton_inj.mp whole
      exact ⟨course, follows⟩
    · rw [List.concat_eq_append, ← List.cons_append, ← List.append_assoc] at whole
      obtain ⟨rfl, rfl⟩ := List.append_singleton_inj.mp whole
      exact ⟨course.of_append, course.follows⟩

/-- There are no more requests than documents on the highest total, apart from the first one. -/
theorem length_le (completed : client.Completed wanted log) {most : Nat}
    (totals : ∀ page ∈ pages log, page.numFound ≤ most) : log.length ≤ max 1 most := by
  cases completed with
  | here course => exact Nat.le_of_lt (course.length_lt totals)
  | @last log exchange course follows =>
    have before : ∀ page ∈ pages log, page.numFound ≤ most := fun page member =>
      totals page (by rw [pages_append]; exact List.mem_append_left _ member)
    rw [List.length_append, List.length_singleton]
    exact course.length_lt before

end Completed

/-! ### What a listing sends -/

/-- A request cannot be built, or it is sent and its exchange is noted. -/
theorem noted_of_exchange (method : Http.Method) (url : String) (pairs : List (String × String))
    (body : Option Value) (state : σ × List Http.Exchange) :
    (∃ failure, (client.noted.exchange method url pairs body).effect state =
        (.error failure, state)) ∨
      ∃ result reached exchange, (client.noted.exchange method url pairs body).effect state =
          (result, reached, state.2 ++ [exchange]) ∧
        client.request method url pairs body = .ok exchange.request ∧
        exchange.reply = result.toOption := by
  rw [effect_exchange_eq, request_noted]
  cases client.request method url pairs body with
  | error complaint => exact .inl ⟨_, rfl⟩
  | ok request =>
    have carried : client.noted.transport.exchange request state =
        ((client.transport.exchange request state.1).1,
          (client.transport.exchange request state.1).2,
          state.2 ++ [⟨request, (client.transport.exchange request state.1).1⟩]) := rfl
    simp only [carried]
    cases (client.transport.exchange request state.1).1 with
    | none => exact .inr ⟨_, _, ⟨request, none⟩, rfl, rfl, rfl⟩
    | some reply => exact .inr ⟨_, _, ⟨request, some reply⟩, rfl, rfl, rfl⟩

theorem effect_located {offset url : String} (located : client.endpoint offset = .ok url)
    (state : σ) : (Action.ofExcept (client.endpoint offset)).effect state = (.ok url, state) := by
  rw [Action.effect_ofExcept, located]

/-- A selection that is answered yields the page that the reply is read as. -/
theorem read_of_select {filter fields url : String} {rows start : Nat} {state reached : σ}
    {reply : Http.Reply} (located : client.endpoint "/select" = .ok url)
    (sent : (client.exchange .get url (selecting filter fields rows start) none).effect state =
      (.ok reply, reached)) :
    ∃ result, (client.select filter fields rows start).effect state = (result, reached) ∧
      reply.page? = result.toOption := by
  unfold select Http.Reply.page?
  rw [Action.effect_bind_of_ok (effect_located located state)]
  by_cases success : Http.isSuccess reply.status = true
  · rw [if_pos success]
    cases read : (if reply.isComplete then reply.body.value?.bind Page.ofValue? else none) with
    | none =>
      refine ⟨.error (.parse undecodable), (Action.effect_bind_of_ok sent _).trans ?_, rfl⟩
      rw [if_pos success, read]
      rfl
    | some page =>
      refine ⟨.ok page, (Action.effect_bind_of_ok sent _).trans ?_, rfl⟩
      rw [if_pos success, read]
      rfl
  · obtain ⟨failure, refused⟩ : ∃ failure,
        (refuse "Select" .query reply : Action σ Page).effect reached = (.error failure, reached) :=
      ⟨_, rfl⟩
    rw [if_neg success]
    refine ⟨.error failure, (Action.effect_bind_of_ok sent _).trans ?_, rfl⟩
    rw [if_neg success, refused]

/-- A selection of ids fails before anything is sent, or sends one request and yields the page that
came back. -/
theorem noted_of_select (client : Client σ) (rows start : Nat) (state : σ × List Http.Exchange) :
    (∃ failure, (client.noted.select client.scope "id" rows start).effect state =
        (.error failure, state)) ∨
      ∃ result reached exchange, (client.noted.select client.scope "id" rows start).effect state =
          (result, reached, state.2 ++ [exchange]) ∧
        client.Asks rows start exchange.request ∧ exchange.page? = result.toOption := by
  cases located : client.noted.endpoint "/select" with
  | error failure =>
    refine .inl ⟨failure, Action.effect_bind_of_error ?_ _⟩
    rw [Action.effect_ofExcept, located]
  | ok url =>
    obtain rfl := eq_of_endpoint located
    have addressed := effect_located located state
    rcases noted_of_exchange .get client.selectUrl (client.selection rows start) none state with
      ⟨failure, failed⟩ | ⟨result, reached, exchange, sent, built, answer⟩
    · exact .inl ⟨failure, (Action.effect_bind_of_ok addressed _).trans
        (Action.effect_bind_of_error failed _)⟩
    · have read : exchange.page? = result.toOption.bind Http.Reply.page? := by
        unfold Http.Exchange.page?
        rw [answer]
      cases result with
      | error failure =>
        exact .inr ⟨.error failure, reached, exchange, (Action.effect_bind_of_ok addressed _).trans
          (Action.effect_bind_of_error sent _), asks_of_request built, read⟩
      | ok reply =>
        obtain ⟨result, yields, page⟩ := read_of_select located sent
        exact .inr ⟨result, reached, exchange, yields, asks_of_request built, read.trans page⟩

/-! ### Where a listing stands -/

/-- A listing that goes on stands where its exchanges have brought it. -/
structure Underway (client : Client σ) (wanted : Nat)
    (standing : Standing (σ × List Http.Exchange)) : Prop where
  course : client.Course wanted standing.state.2
  seen : standing.seen = received standing.state.2
  found : standing.found = collected standing.state.2

section Underway

variable {standing : Standing (σ × List Http.Exchange)}
  (underway : client.Underway wanted standing)
include underway

/-- The next page is not asked for, or it is asked for as it has to be. -/
theorem noted_of_nextPage (short : standing.found.length < wanted) :
    (∃ failure, client.noted.nextPage wanted standing = (.error failure, standing.state)) ∨
      ∃ result reached exchange, client.noted.nextPage wanted standing =
          (result, reached, standing.state.2 ++ [exchange]) ∧
        client.Follows wanted standing.state.2 exchange.request ∧
        exchange.page? = result.toOption := by
  rcases client.noted_of_select (min client.settings.rowsMax (wanted - standing.found.length))
      standing.seen standing.state with failed | ⟨result, reached, exchange, sent, asks, read⟩
  · exact .inl failed
  · rw [underway.found] at short asks
    rw [underway.seen] at asks
    exact .inr ⟨result, reached, exchange, sent, ⟨short, rowsAfter_pos short, asks⟩, read⟩

/-- After a page with documents that is not the last one, a listing goes on. -/
theorem Underway.after {exchange : Http.Exchange} {page : Page} (reached : σ)
    (follows : client.Follows wanted standing.state.2 exchange.request)
    (came : exchange.page? = some page) (some : page.docs.length ≠ 0)
    (further : standing.seen + page.docs.length < page.numFound) :
    client.Underway wanted (standing.after page (reached, standing.state.2 ++ [exchange])) where
  course := underway.course.page follows came some (underway.seen ▸ further)
  seen := by
    show standing.seen + page.docs.length = received (standing.state.2 ++ [exchange])
    rw [received_concat came, underway.seen]
  found := by
    show standing.found ++ page.ids = collected (standing.state.2 ++ [exchange])
    rw [collected_concat came, underway.found]

/-- **A listing that goes on is completed, and lists what it collected.** -/
theorem completed_remainder :
    client.Completed wanted (client.noted.remainder wanted standing).2.2 ∧
      ∀ ids, (client.noted.remainder wanted standing).1 = .ok ids →
        ids = collected (client.noted.remainder wanted standing).2.2 := by
  -- no total is as high as the number of words, and each page starts further on
  induction left : Text.wordLimit - standing.seen using Nat.strongRecOn generalizing standing with
  | _ words ih =>
  rw [remainder_eq]
  by_cases short : standing.found.length < wanted
  case neg =>
    rw [if_neg short]
    exact ⟨.here underway.course, fun ids listed => Except.ok.inj listed ▸ underway.found⟩
  rw [if_pos short]
  rcases noted_of_nextPage underway short with
    ⟨failure, failed⟩ | ⟨failure | page, reached, exchange, sent, follows, came⟩
  · rw [failed]
    exact ⟨.here underway.course, nofun⟩
  · rw [sent]
    exact ⟨.last underway.course follows, nofun⟩
  have completed : client.Completed wanted (standing.state.2 ++ [exchange]) :=
    .last underway.course follows
  have gathered : collected (standing.state.2 ++ [exchange]) = standing.found ++ page.ids := by
    rw [collected_concat came, underway.found]
  rw [sent]
  simp only
  by_cases none : page.docs.length = 0
  · rw [if_pos none]
    refine ⟨completed, fun ids listed => ?_⟩
    rw [gathered, ← Except.ok.inj listed, Page.ids, List.length_eq_zero_iff.mp none,
      List.filterMap_nil, List.append_nil]
  rw [if_neg none]
  by_cases further : standing.seen + page.docs.length < page.numFound
  · rw [if_pos further]
    have bounded := page.numFound_lt
    refine ih _ ?_ (underway.after reached follows came none further) rfl
    show Text.wordLimit - (standing.seen + page.docs.length) < words
    omega
  · rw [if_neg further]
    exact ⟨completed, fun ids listed => gathered ▸ (Except.ok.inj listed).symm⟩

end Underway

/-! ### Listings -/

/-- The page that came back, if there is one, holds no more documents than were asked for. -/
def Fits (client : Client σ) (exchange : Http.Exchange) : Prop :=
  ∀ page, exchange.page? = some page →
    ∃ rows start, client.Asks rows start exchange.request ∧ page.docs.length ≤ rows

/-- With such a page no more ids are collected than are wanted. -/
theorem Follows.length_collected_le {before : List Http.Exchange} {exchange : Http.Exchange}
    (follows : client.Follows wanted before exchange.request) (fits : client.Fits exchange) :
    (collected (before ++ [exchange])).length ≤ wanted := by
  have short := follows.short
  cases came : exchange.page? with
  | none =>
    have same : collected (before ++ [exchange]) = collected before := by
      unfold collected
      rw [pages_append, pages, pages, List.filterMap_cons_none came, List.filterMap_nil,
        List.append_nil]
    rw [same]
    exact Nat.le_of_lt short
  | some page =>
    obtain ⟨rows, start, asks, few⟩ := fits page came
    have ids : page.ids.length ≤ page.docs.length := List.length_filterMap_le _ _
    have missing : rows ≤ wanted - (collected before).length :=
      asks.rows_unique follows.asks ▸ Nat.min_le_right _ _
    rw [collected_concat came, List.length_append]
    omega

/-- So no more ids are listed than are wanted. -/
theorem Completed.length_collected_le {log : List Http.Exchange}
    (completed : client.Completed wanted log) (fits : ∀ exchange ∈ log, client.Fits exchange) :
    (collected log).length ≤ wanted := by
  cases completed with
  | here course =>
    cases course with
    | start => exact Nat.zero_le wanted
    | page _ follows => exact follows.length_collected_le (fits _ List.mem_concat_self)
  | last _ follows => exact follows.length_collected_le (fits _ List.mem_concat_self)

/-- What a listing of some ids sends, and what it comes to. -/
structure Bounded (client : Client σ) (wanted : Nat) (result : Except SearchError (List String))
    (log : List Http.Exchange) : Prop where
  /-- If none are wanted, nothing is sent. -/
  idle : wanted = 0 → log = []
  /-- There are no more requests than documents on the highest total, apart from the first one. -/
  few : ∀ most, (∀ page ∈ pages log, page.numFound ≤ most) → log.length ≤ max 1 most
  /-- Each request asks for what is missing, behind the documents that were received. -/
  follows : ∀ before exchange after, log = before ++ exchange :: after →
    client.Follows wanted before exchange.request
  /-- Each one starts further on than those before it. -/
  onwards : ∀ before exchange middle later after,
    log = before ++ exchange :: middle ++ later :: after →
    received before < received (before ++ exchange :: middle)
  /-- What is listed was collected. -/
  collected : ∀ ids, result = .ok ids → ids = collected log
  /-- If no page holds more documents than were asked for, no more ids are listed than are wanted.
  -/
  within : (∀ exchange ∈ log, client.Fits exchange) →
    ∀ ids, result = .ok ids → ids.length ≤ wanted

/-- **A listing comes to its end whatever the engine answers.** Whatever the transport does with a
request, a listing of ids sends no more of them than its bounds allow, and each as it has to be. The
notes that tell so are taken along the way and make no difference. -/
theorem ids_bounded (client : Client σ) (limit : Option Nat) (state : σ) :
    ∃ result reached log,
      (client.noted.reader.ids limit).effect (state, []) = (result, reached, log) ∧
      (client.reader.ids limit).effect state = (result, reached) ∧
      client.Bounded (limit.getD allIds) result log := by
  have underway : client.Underway (limit.getD allIds) ⟨0, [], state, []⟩ := ⟨.start, rfl, rfl⟩
  obtain ⟨completed, listed⟩ := completed_remainder underway
  have plain := erases_ids client limit (state, [])
  rw [← effect_ids_eq] at completed listed
  rcases ran : (client.noted.reader.ids limit).effect (state, []) with ⟨result, reached, log⟩
  rw [ran] at completed listed plain
  refine ⟨result, reached, log, rfl, plain, ?idle, fun most => completed.length_le, ?follows,
    ?onwards, listed, ?within⟩
  case idle =>
    intro nothing
    cases log with
    | nil => rfl
    | cons exchange after =>
      have first : client.Completed (limit.getD allIds) ([] ++ exchange :: after) := completed
      exact absurd first.split.2.short (nothing ▸ Nat.not_lt_zero _)
  case follows =>
    rintro before exchange after rfl
    exact completed.split.2
  case onwards =>
    rintro before exchange middle later after rfl
    exact completed.split.1.received_lt_received
  case within =>
    intro fits ids ended
    rw [listed ids ended]
    exact completed.length_collected_le fits

/-! ### An engine that cannot count -/

/-- A reply with some documents and a total, whatever this has to do with them. -/
def boasting (total : Nat) (docs : List Record) : Http.Reply :=
  ⟨200, .value (.object [("response", .object [("numFound", .number total),
    ("docs", .list (docs.map Record.toValue))])]), true⟩

/-- A core that is asked for two ids at a time, and whose replies are laid out beforehand. -/
def wavering : Client Http.Script :=
  ⟨((Settings.ofUrl "http://[::1]/c").withSiteId "s").withRowsMax 2, .package, .scripted⟩

/-- Totals that come down page by page, and documents that lack ids. -/
def shrinking : Http.Script :=
  ⟨[some (boasting 5 [.empty, .idOnly "a"]), some (boasting 4 [.empty]),
    some (boasting 2 [.idOnly "b"])], []⟩

/-- What comes of three ids that are wanted. -/
def shrunk : Except SearchError (List String) × Http.Script × List Http.Exchange :=
  (wavering.noted.reader.ids (some 3)).effect (shrinking, [])

/-- Five documents are claimed at first. Three requests get the ids of the two that have one, and no
page holds more documents than were asked for. -/
theorem ids_bounded_of_shrinking :
    ∃ result reached log, shrunk = (result, reached, log) ∧
      (wavering.reader.ids (some 3)).effect shrinking = (result, reached) ∧
      wavering.Bounded 3 result log ∧
      (∀ page ∈ pages log, page.numFound ≤ 5) ∧ log.length = 3 ∧ log.length ≤ max 1 5 ∧
      (∀ exchange ∈ log, wavering.Fits exchange) ∧ result = .ok ["a", "b"] ∧
      ["a", "b"].length ≤ 3 := by
  obtain ⟨result, reached, log, ran, plain, bounded⟩ := ids_bounded wavering (some 3) shrinking
  have known : shrunk.1.toOption = some ["a", "b"] ∧ shrunk.2.2.length = 3 ∧
      (∀ page ∈ pages shrunk.2.2, page.numFound ≤ 5) ∧
      ∀ count < 3, ∀ page ∈ (shrunk.2.2[count]?.bind Http.Exchange.page?).toList,
        page.docs.length ≤ wavering.rowsAfter 3 (shrunk.2.2.take count) := by
    decide +kernel
  rw [shrunk, ran] at known
  obtain ⟨listed, sent, totals, filled⟩ := known
  have fits : ∀ exchange ∈ log, wavering.Fits exchange := by
    intro exchange member page came
    obtain ⟨before, after, rfl⟩ := List.append_of_mem member
    refine ⟨_, _, (bounded.follows before exchange after rfl).asks, ?_⟩
    have inside : before.length < 3 := by
      rw [← sent, List.length_append, List.length_cons]
      omega
    have few := filled before.length inside page (by simp [came])
    rwa [List.take_left] at few
  obtain rfl : result = .ok ["a", "b"] := by
    cases result with
    | error failure => cases listed
    | ok ids => exact congrArg Except.ok (Option.some.inj listed)
  exact ⟨_, reached, log, ran, plain, bounded, totals, sent, bounded.few 5 totals, fits, rfl,
    bounded.within fits _ rfl⟩

/-- More documents than were asked for make more ids than are wanted. -/
example : ((wavering.reader.ids (some 1)).effect
    ⟨[some (boasting 2 [.idOnly "a", .idOnly "b"])], []⟩).1.toOption = some ["a", "b"] := by
  decide +kernel

end Client

end Solr

end CatalogSync
