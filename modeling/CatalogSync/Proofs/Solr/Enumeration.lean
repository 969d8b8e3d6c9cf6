/-
**Listing the ids of a core.**

* `Standing` — how far a listing has come: the documents seen, the ids found and the state reached.
  `Standing.after` is where it stands after one more page.
* `Client.nextPage` — what becomes of the request for a page at a standing, and `remainder` — what
  the listing comes to from there on.
* `Leads`, `Requests` — a listing comes to a standing page by page, and asks for a page there.
* **`remainder_error_iff`** — a listing fails just if one of the requests that it comes to fails,
  and fails as this one does.
* **`ids_listed`** — from an honest engine it gets the ids of the documents in their order, up to
  the number that is wanted. Whatever the engine does, it never asks for more rows at once than it
  may, and whatever request fails, no ids are listed.
-/

import CatalogSync.Proofs.Bulk.Exact

namespace CatalogSync.Solr

/-- How far a listing has come. -/
structure Standing (σ : Type) where
  /-- The number of documents seen. -/
  seen : Nat
  /-- The ids found. -/
  found : List String
  state : σ

/-- Where a listing stands after one more page. -/
def Standing.after {σ : Type} (standing : Standing σ) (page : Page) (reached : σ) : Standing σ :=
  ⟨standing.seen + page.docs.length, standing.found ++ page.ids, reached⟩

namespace Client

variable {σ : Type} (client : Client σ) (limit : Nat)

/-! ### From page to page -/

/-- What becomes of the request for the next page. -/
def nextPage (standing : Standing σ) : Except SearchError Page × σ :=
  (client.select client.scope "id" (min client.settings.rowsMax (limit - standing.found.length))
    standing.seen).effect standing.state

/-- What a listing comes to from a standing on. -/
def remainder (standing : Standing σ) : Except SearchError (List String) × σ :=
  (client.collect limit standing.seen standing.found).effect standing.state

/-- A listing comes from one standing to another: ids are wanted, and there is a page that is
neither empty nor the last one. -/
inductive Leads (start : Standing σ) : Standing σ → Prop
  | start : Leads start start
  | page {standing : Standing σ} {page : Page} {reached : σ} (leads : Leads start standing)
    (wanted : standing.found.length < limit)
    (came : client.nextPage limit standing = (.ok page, reached)) (some : page.docs.length ≠ 0)
    (further : standing.seen + page.docs.length < page.numFound) :
    Leads start (standing.after page reached)

/-- A listing comes to a standing and asks for a page there. -/
structure Requests (start standing : Standing σ) : Prop where
  leads : client.Leads limit start standing
  wanted : standing.found.length < limit

variable {client limit} {start standing other : Standing σ}

theorem Leads.trans (first : client.Leads limit start standing)
    (second : client.Leads limit standing other) : client.Leads limit start other := by
  induction second with
  | start => exact first
  | page _ wanted came some further ih => exact ih.page wanted came some further

/-- A listing is over when no ids are wanted, with an empty page, or with the last one. -/
theorem remainder_eq (standing : Standing σ) :
    client.remainder limit standing =
      if standing.found.length < limit then
        match client.nextPage limit standing with
        | (.error failure, reached) => (.error failure, reached)
        | (.ok page, reached) =>
          if page.docs.length = 0 then (.ok standing.found, reached)
          else if standing.seen + page.docs.length < page.numFound then
            client.remainder limit (standing.after page reached)
          else (.ok (standing.found ++ page.ids), reached)
      else (.ok standing.found, standing.state) := by
  unfold remainder
  rw [collect]
  by_cases wanted : standing.found.length < limit
  · rw [if_pos wanted, if_pos wanted]
    rcases asked : client.nextPage limit standing with ⟨failure | page, reached⟩
    · exact Action.effect_bind_of_error asked _
    · refine (Action.effect_bind_of_ok asked _).trans ?_
      simp only
      split
      · rfl
      · split
        · rfl
        · rfl
  · rw [if_neg wanted, if_neg wanted]
    rfl

/-- What a listing comes to does not change on its way. -/
theorem remainder_of_leads (leads : client.Leads limit start standing) :
    client.remainder limit start = client.remainder limit standing := by
  induction leads with
  | start => rfl
  | page _ wanted came some further ih =>
    rw [ih, remainder_eq, if_pos wanted, came]
    simp only [if_neg some, if_pos further]

/-- **A listing fails just if a request that it comes to fails, and as this one does.** -/
theorem remainder_error_iff {failure : SearchError} {reached : σ} :
    client.remainder limit start = (.error failure, reached) ↔
      ∃ standing, client.Requests limit start standing ∧
        client.nextPage limit standing = (.error failure, reached) := by
  constructor
  · -- a page never claims as many documents as there are words, and each starts further on
    induction left : Text.wordLimit - start.seen using Nat.strongRecOn generalizing start with
    | _ words ih =>
    intro failed
    rw [remainder_eq] at failed
    split at failed
    · next wanted =>
      rcases came : client.nextPage limit start with ⟨problem | page, next⟩
      · rw [came] at failed
        cases failed
        exact ⟨start, ⟨.start, wanted⟩, came⟩
      · simp only [came] at failed
        split at failed
        · cases failed
        · next some =>
          split at failed
          · next further =>
            have bounded := page.numFound_lt
            have closer : Text.wordLimit - (start.after page next).seen < words := by
              show Text.wordLimit - (start.seen + page.docs.length) < words
              omega
            obtain ⟨standing, requests, fails⟩ := ih _ closer rfl failed
            have here : client.Leads limit start (start.after page next) :=
              .page .start wanted came some further
            exact ⟨standing, ⟨here.trans requests.leads, requests.wanted⟩, fails⟩
          · cases failed
    · cases failed
  · rintro ⟨standing, requests, failed⟩
    rw [remainder_of_leads requests.leads, remainder_eq, if_pos requests.wanted, failed]

/-! ### Listings -/

/-- A request for a page of ids, with some rows and no more than may be asked for at once. -/
def Pages (client : Client σ) (request : Http.Request) : Prop :=
  ∃ rows start, 0 < rows ∧ rows ≤ client.settings.rowsMax ∧ client.Asks rows start request

/-- A listing starts with nothing seen. -/
theorem effect_ids_eq (limit : Option Nat) (state : σ) :
    (client.reader.ids limit).effect state =
      client.remainder (limit.getD allIds) ⟨0, [], state⟩ := by
  show (client.collect (limit.getD allIds) 0 [] >>= fun _ => _).effect state =
    (client.collect (limit.getD allIds) 0 []).effect state
  rw [Action.effect_bind]
  rcases (client.collect (limit.getD allIds) 0 []).effect state with ⟨failure | found, reached⟩
  · rfl
  · rfl

/-- **A listing loses and repeats nothing.** From an honest engine it gets the ids of the first
documents that have one, as many as are wanted. No request asks for more rows than may be asked for
at once. And it fails just if one of its requests fails, and as this one does. -/
theorem ids_listed (client : Client σ) :
    (∀ (documents : List Record) (holds : σ → Prop), client.Serves documents holds →
      ∀ limit state, holds state → ∃ reached, holds reached ∧
        (client.reader.ids limit).effect state =
          (.ok ((documents.filterMap Record.id?).take (limit.getD allIds)), reached)) ∧
    (∀ limit, (client.noted.reader.ids limit).Sends client.Pages) ∧
    ∀ limit state failure reached,
      (client.reader.ids limit).effect state = (.error failure, reached) ↔
        ∃ standing, client.Requests (limit.getD allIds) ⟨0, [], state⟩ standing ∧
          client.nextPage (limit.getD allIds) standing = (.error failure, reached) := by
  refine ⟨fun documents holds serves limit state holding => ?_, fun limit => ?_,
    fun limit state failure reached => ?_⟩
  · obtain ⟨reached, listed, still⟩ := effect_ids_take serves limit holding
    exact ⟨reached, still, listed⟩
  · refine adds_listing client.noted (fun rows start wanted bounded => ?_) limit
    exact adding_noted fun request meant =>
      ⟨rows, start, wanted, bounded, ⟨meant.method, meant.body, meant.address⟩⟩
  · rw [effect_ids_eq, remainder_error_iff]

/-- Two ids of three documents are on the first and on the last of three pages. -/
theorem ids_listed_of_shelved :
    nearby.Serves shelved (· = shelved) ∧
      (nearby.reader.ids (some 1)).effect shelved = (.ok ["a"], shelved) ∧
      (nearby.reader.ids (some 2)).effect shelved = (.ok ["a", "z"], shelved) ∧
      (nearby.reader.ids none).effect shelved = (.ok ["a", "z"], shelved) := by
  have listed := (ids_listed nearby).1 shelved (· = shelved) serves_nearby
  refine ⟨serves_nearby, ?_, ?_, ?_⟩
  · obtain ⟨reached, rfl, found⟩ := listed (some 1) shelved rfl
    exact found
  · obtain ⟨reached, rfl, found⟩ := listed (some 2) shelved rfl
    exact found
  · obtain ⟨reached, rfl, found⟩ := listed none shelved rfl
    exact found

end Client

end CatalogSync.Solr
