/-
**What is written for one scope is read in that scope alone.**

* `passes` — whether a document passes a filter, which is read as a query.
* `get?_document` — the fields of a document: those of its scope, and beside them those of its
  record.
* `passes_scope`, `passes_siteFilter`, `passes_referenceFilter` — when a document that one client
  writes passes the filters of another.
* **`document_scoped`** — the enumeration, the clearing and the look-up of a client meet just the
  documents of its own scope, whatever the records say of their scope themselves; and what is sent
  are these documents and these filters.
-/

import CatalogSync.Proofs.Solr.Filter
import CatalogSync.Proofs.SortedMap

namespace CatalogSync

/-- A record is read back from its object. -/
theorem Record.ofValue?_toValue (record : Record) :
    Record.ofValue? record.toValue = some record :=
  congrArg (fun fields => some (Record.mk fields)) (SortedMap.ofList_entries record.fields)

theorem EntityType.tag_inj {first second : EntityType} : first.tag = second.tag ↔ first = second :=
  ⟨congrArg EntityType.mk, congrArg EntityType.tag⟩

namespace Solr

/-- Whether a document passes a filter. -/
def passes (filter : String) (document : Record) : Bool :=
  (Query.read? filter).any fun query => query.admits document

/-! ### What the queries ask of a document -/

namespace Query

variable (siteId tag reference : String) (document : Record)

theorem admits_ofSite :
    (ofSite siteId).admits document = true ↔
      (document.get? "site_id").bind Value.text? = some siteId := by
  simp [admits, ofSite, Series.members, Series.only, Term.site]

theorem admits_ofScope :
    (ofScope siteId tag).admits document = true ↔
      (ofSite siteId).admits document = true ∧
        (document.get? "entity_type").bind Value.text? = some tag := by
  simp [admits, ofScope, ofSite, Series.members, Series.only, Term.type]

theorem admits_ofReference :
    (ofReference siteId tag reference).admits document = true ↔
      (ofScope siteId tag).admits document = true ∧
        (document.id? = some reference ∨ document.name? = some reference) := by
  simp [admits, ofReference, ofScope, Series.members, Series.only, Term.id, Term.name, Record.id?,
    Record.name?, and_assoc]

end Query

namespace Client

variable {σ τ : Type}

/-! ### The fields of a document -/

/-- The fields that tell the scope of a document. -/
def scopeFields : List String := ["index_id", "site_id", "entity_type"]

section Fields

variable (client : Client σ) (record : Record) (id : String)

/-- A document has the fields of its scope, and beside them those of its record. -/
theorem get?_document (field : String) :
    (client.document record id).get? field =
      if field = "entity_type" then some (.text client.entityType.tag)
      else if field = "site_id" then some (.text client.settings.siteId)
      else if field = "index_id" then some (.text (client.indexId id))
      else record.get? field := by
  unfold Record.get? document Record.insert
  simp only [SortedMap.get?_insert, eq_comm (b := field)]

theorem get?_document_of_notMem {field : String} (beside : field ∉ scopeFields) :
    (client.document record id).get? field = record.get? field := by
  simp only [scopeFields, List.mem_cons, List.not_mem_nil, or_false, not_or] at beside
  rw [get?_document, if_neg beside.2.2, if_neg beside.2.1, if_neg beside.1]

theorem id?_document : (client.document record id).id? = record.id? :=
  congrArg (Option.bind · Value.text?) (get?_document_of_notMem client record id (by decide))

theorem name?_document : (client.document record id).name? = record.name? :=
  congrArg (Option.bind · Value.text?) (get?_document_of_notMem client record id (by decide))

end Fields

/-! ### Which documents pass -/

section Passes

variable (writer : Client σ) (reader : Client τ) (record : Record) (id : String)

theorem admits_site :
    (Query.ofSite reader.settings.siteId).admits (writer.document record id) = true ↔
      writer.settings.siteId = reader.settings.siteId := by
  rw [Query.admits_ofSite, get?_document, if_neg (by decide), if_pos rfl]
  exact Option.some_inj

theorem admits_scope :
    (Query.ofScope reader.settings.siteId reader.entityType.tag).admits
        (writer.document record id) = true ↔
      writer.settings.siteId = reader.settings.siteId ∧ writer.entityType = reader.entityType := by
  rw [Query.admits_ofScope, admits_site, get?_document, if_pos rfl, ← EntityType.tag_inj]
  exact and_congr_right fun _ => Option.some_inj

/-- A document passes the filter of a site just if it is written for that site. -/
theorem passes_siteFilter :
    passes (siteFilter reader.settings.siteId) (writer.document record id) = true ↔
      writer.settings.siteId = reader.settings.siteId := by
  unfold passes
  rw [Query.read?_siteFilter, Option.any_some, admits_site]

/-- A document passes the filter of a scope just if it is written for that scope. -/
theorem passes_scope :
    passes reader.scope (writer.document record id) = true ↔
      writer.settings.siteId = reader.settings.siteId ∧ writer.entityType = reader.entityType := by
  unfold passes scope
  rw [Query.read?_scopeFilter, Option.any_some, admits_scope]

/-- A document passes the filter for a reference just if it is written for that scope, and for a
record that has the reference as its id or as its name. -/
theorem passes_referenceFilter (reference : String) :
    passes (referenceFilter reader.scope reference) (writer.document record id) = true ↔
      (writer.settings.siteId = reader.settings.siteId ∧ writer.entityType = reader.entityType) ∧
        (record.id? = some reference ∨ record.name? = some reference) := by
  unfold passes scope
  rw [Query.read?_referenceFilter, Option.any_some, Query.admits_ofReference, admits_scope,
    id?_document, name?_document]

end Passes

/-! ### The main statement -/

/-- **The filters of a client meet just the documents of its own scope.** Whatever a record says of
its scope itself, its document has the scope of the client that writes it, and else the fields of
the record. This document is what is sent, and the filters are what is asked for and removed. -/
theorem document_scoped (writer : Client σ) (reader : Client τ) {record : Record} {id : String}
    (known : record.id? = some id) :
    (passes reader.scope (writer.document record id) = true ↔
      writer.settings.siteId = reader.settings.siteId ∧ writer.entityType = reader.entityType) ∧
    (passes (siteFilter reader.settings.siteId) (writer.document record id) = true ↔
      writer.settings.siteId = reader.settings.siteId) ∧
    (∀ reference,
      passes (referenceFilter reader.scope reference) (writer.document record id) = true ↔
        (writer.settings.siteId = reader.settings.siteId ∧
          writer.entityType = reader.entityType) ∧
        (reference = id ∨ record.name? = some reference)) ∧
    (∀ field ∉ scopeFields, (writer.document record id).get? field = record.get? field) ∧
    Record.ofValue? (writer.document record id).toValue = some (writer.document record id) ∧
    (writer.noted.writer.insert record).Sends (Brings (writer.document record id)) ∧
    (∀ deferCommit,
      (writer.noted.writer.update record deferCommit).Sends (Brings (writer.document record id))) ∧
    reader.SendsFilters := by
  refine ⟨passes_scope writer reader record id, passes_siteFilter writer reader record id,
    fun reference => ?reference, fun _ => get?_document_of_notMem writer record id,
    Record.ofValue?_toValue _, sends_document writer known true,
    fun deferCommit => sends_document writer known !deferCommit, sendsFilters reader⟩
  case reference =>
    have ids : record.id? = some reference ↔ reference = id := by
      rw [known, Option.some_inj, eq_comm]
    rw [passes_referenceFilter, ids]

/-- A dataset that claims to belong to another site and type. -/
def claiming : Record :=
  ((Record.idOnly "x").insert "site_id" (.text "theirs")).insert "entity_type" (.text "other")

/-- A client for the datasets of a site. -/
def datasetsOf (siteId : String) : Client Unit :=
  ⟨(Settings.ofUrl "http://solr:8983/solr/ckan").withSiteId siteId, .package, .unreachable⟩

/-- What a dataset claims does not bring it into the other site, and it is found in its own. -/
theorem document_scoped_of_claiming :
    claiming.id? = some "x" ∧
      passes (datasetsOf "ours").scope ((datasetsOf "ours").document claiming "x") = true ∧
      passes (siteFilter "theirs") ((datasetsOf "ours").document claiming "x") = false ∧
      passes (referenceFilter (datasetsOf "ours").scope "x")
        ((datasetsOf "ours").document claiming "x") = true := by
  have known : claiming.id? = some "x" := by decide
  obtain ⟨own, -, references, -⟩ := document_scoped (datasetsOf "ours") (datasetsOf "ours") known
  obtain ⟨-, others, -⟩ := document_scoped (datasetsOf "ours") (datasetsOf "theirs") known
  refine ⟨known, own.mpr ⟨rfl, rfl⟩, Bool.eq_false_iff.mpr fun passed => ?_,
    (references "x").mpr ⟨⟨rfl, rfl⟩, .inl rfl⟩⟩
  exact absurd (others.mp passed) (by decide)

end Client

end Solr

end CatalogSync
