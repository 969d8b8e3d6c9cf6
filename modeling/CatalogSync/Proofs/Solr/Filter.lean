/-
**The filters of a client.**

* `Query.ofSite`, `Query.ofScope`, `Query.ofReference` — the queries for the documents of a site,
  for those of one type, and for those of them that have a given id or name.
* `text_ofSite`, `text_ofScope`, `text_ofReference` — the filters are the texts of these queries.
* **`filter_structure`** — a quoted text is read back whatever follows it, the filters are read back
  as these three queries with nothing left over, filters of different arguments are different, and
  they are all that a client names documents by when it reads or removes them.
-/

import CatalogSync.Proofs.Solr.Query
import CatalogSync.Proofs.Solr.Sending

namespace CatalogSync.Solr

namespace Clause

/-- A clause of one term is that term behind a plus. -/
theorem write_only (term : Term) :
    write (.only term) = '+' :: (term.field.toList ++ ':' :: (quote term.phrase).toList) := by
  simp [write, Series.only, terms, Term.write, phrases]

/-- A clause of two terms stands in brackets. -/
theorem write_either (first second : Term) :
    write ⟨first, [second]⟩ =
      '+' :: '(' :: (first.field.toList ++ ':' :: (quote first.phrase).toList) ++ or ++
        (second.field.toList ++ ':' :: (quote second.phrase).toList) ++ [')'] := by
  simp [write, Spelling.separated, terms, Term.write, phrases]

end Clause

namespace Term

/-- The site is the given one. -/
def site (siteId : String) : Term := ⟨"site_id", siteId, by decide⟩

/-- The type is the given one. -/
def type (tag : String) : Term := ⟨"entity_type", tag, by decide⟩

/-- The id is the given one. -/
def id (reference : String) : Term := ⟨"id", reference, by decide⟩

/-- The name is the given one. -/
def name (reference : String) : Term := ⟨"name", reference, by decide⟩

end Term

namespace Query

/-- The documents of a site. -/
def ofSite (siteId : String) : Query := ⟨.only (.site siteId), []⟩

/-- The documents of one type that belong to a site. -/
def ofScope (siteId tag : String) : Query := ⟨.only (.site siteId), [.only (.type tag)]⟩

/-- The documents of a scope that have the reference as their id or name. -/
def ofReference (siteId tag reference : String) : Query :=
  ⟨.only (.site siteId), [.only (.type tag), ⟨.id reference, [.name reference]⟩]⟩

/-! ### Their texts -/

/-- Clauses are written with a blank between them. -/
theorem toList_text (query : Query) :
    query.text.toList =
      query.first.write ++ query.others.flatMap fun clause => ' ' :: clause.write :=
  String.toList_ofList

theorem text_ofSite (siteId : String) : (ofSite siteId).text = siteFilter siteId := by
  refine String.toList_inj.mp ?_
  rw [toList_text]
  simp [ofSite, siteFilter, Clause.write_only, Term.site]

theorem text_ofScope (siteId tag : String) :
    (ofScope siteId tag).text = scopeFilter siteId tag := by
  refine String.toList_inj.mp ?_
  rw [toList_text]
  simp [ofScope, scopeFilter, siteFilter, Clause.write_only, Term.site, Term.type]

theorem text_ofReference (siteId tag reference : String) :
    (ofReference siteId tag reference).text =
      referenceFilter (scopeFilter siteId tag) reference := by
  refine String.toList_inj.mp ?_
  rw [toList_text]
  simp [ofReference, referenceFilter, scopeFilter, siteFilter, Clause.write_only,
    Clause.write_either, Clause.or, Term.site, Term.type, Term.id, Term.name]

/-! ### Reading them back -/

theorem read?_siteFilter (siteId : String) : read? (siteFilter siteId) = some (ofSite siteId) := by
  rw [← text_ofSite, read?_text]

theorem read?_scopeFilter (siteId tag : String) :
    read? (scopeFilter siteId tag) = some (ofScope siteId tag) := by
  rw [← text_ofScope, read?_text]

theorem read?_referenceFilter (siteId tag reference : String) :
    read? (referenceFilter (scopeFilter siteId tag) reference) =
      some (ofReference siteId tag reference) := by
  rw [← text_ofReference, read?_text]

theorem siteFilter_injective : Function.Injective siteFilter := by
  intro siteId other same
  rw [← text_ofSite, ← text_ofSite] at same
  have queries : ofSite siteId = ofSite other := text_injective same
  simp only [ofSite, Series.mk.injEq, Series.only, Term.site, Term.mk.injEq] at queries
  exact queries.1.1.2

theorem scopeFilter_inj {siteId tag siteId' tag' : String} :
    scopeFilter siteId tag = scopeFilter siteId' tag' ↔ siteId = siteId' ∧ tag = tag' := by
  constructor
  · intro same
    rw [← text_ofScope, ← text_ofScope] at same
    have queries : ofScope siteId tag = ofScope siteId' tag' := text_injective same
    simpa [ofScope, Series.only, Term.site, Term.type] using queries
  · rintro ⟨rfl, rfl⟩
    rfl

theorem referenceFilter_inj {siteId tag reference siteId' tag' reference' : String} :
    referenceFilter (scopeFilter siteId tag) reference =
        referenceFilter (scopeFilter siteId' tag') reference' ↔
      siteId = siteId' ∧ tag = tag' ∧ reference = reference' := by
  constructor
  · intro same
    rw [← text_ofReference, ← text_ofReference] at same
    have queries : ofReference siteId tag reference = ofReference siteId' tag' reference' :=
      text_injective same
    simpa [ofReference, Series.only, Term.site, Term.type, Term.id, Term.name] using queries
  · rintro ⟨rfl, rfl, rfl⟩
    rfl

end Query

/-- **Quoting cannot be broken out of.** A quoted text has a backslash put before each of its
backslashes and then before each of its quotes. Whatever follows it, it is read back and nothing
more. So a filter is read back as the clauses that it is made of, with nothing left over, and no
two filters are the same by accident; and what a client reads or removes is named by these. -/
theorem filter_structure :
    (∀ text : String,
      (quote text).toList = ['"'] ++ escaped '"' (escaped '\\' text.toList) ++ ['"']) ∧
    (∀ (text : String) (rest : List Char),
      readPhrase ((quote text).toList ++ rest) = some (text, rest)) ∧
    (∀ siteId, Query.read? (siteFilter siteId) = some (.ofSite siteId)) ∧
    (∀ siteId tag, Query.read? (scopeFilter siteId tag) = some (.ofScope siteId tag)) ∧
    (∀ siteId tag reference,
      Query.read? (referenceFilter (scopeFilter siteId tag) reference) =
        some (.ofReference siteId tag reference)) ∧
    Function.Injective siteFilter ∧
    (∀ siteId tag siteId' tag',
      scopeFilter siteId tag = scopeFilter siteId' tag' ↔ siteId = siteId' ∧ tag = tag') ∧
    (∀ siteId tag reference siteId' tag' reference',
      referenceFilter (scopeFilter siteId tag) reference =
          referenceFilter (scopeFilter siteId' tag') reference' ↔
        siteId = siteId' ∧ tag = tag' ∧ reference = reference') ∧
    ∀ (σ : Type) (client : Client σ), client.SendsFilters :=
  ⟨fun text => by rw [← quoted_eq_escaped]; exact String.toList_ofList, readPhrase_quote,
    Query.read?_siteFilter, Query.read?_scopeFilter, Query.read?_referenceFilter,
    Query.siteFilter_injective, fun _ _ _ _ => Query.scopeFilter_inj,
    fun _ _ _ _ _ _ => Query.referenceFilter_inj, fun _ => Client.sendsFilters⟩

end CatalogSync.Solr
