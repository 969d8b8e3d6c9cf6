/-
**Keys of documents.**

The engine keeps one document under a key. The key of a document is made of the site, the type and
the id that it belongs to, with a colon between them, and each of the three may have colons of its
own.

* `Client.keyStem` — what the keys of all documents of a site and a type begin with.
* `Client.Aligned` — two sites with equally many colons, and two types with equally many.
* `key?_document` — the key that a document carries, whatever the record says of its key itself.
* `indexId_eq_iff_of_aligned` — where the colons are aligned, a key is read back in one way only.
* **`document_key_eq_iff`** — two documents have the same site, type and id just if they have the
  same key and their colons are aligned. Two sites and types have a key in common just if the stem
  of one of them begins with that of the other.
* `document_key_collides` — this happens: the key alone does not tell sites apart.
-/

import CatalogSync.Solr.Client

namespace CatalogSync

/-- The key under which the engine keeps a document. -/
def Record.key? (document : Record) : Option String :=
  (document.get? "index_id").bind Value.text?

/-- Two lists that are cut at the same mark are equal only if their parts are, provided that the
mark occurs equally often before the cuts. -/
theorem append_cons_inj {α : Type} [DecidableEq α] {mark : α} {front front' rest rest' : List α}
    (aligned : front.count mark = front'.count mark)
    (same : front ++ mark :: rest = front' ++ mark :: rest') : front = front' ∧ rest = rest' := by
  -- if one cut came later than the other, the earlier one would be a mark before the later one
  have together {short long after other : List α} (counts : short.count mark = long.count mark)
      {between : List α} (longer : long = short ++ between)
      (follows : mark :: after = between ++ mark :: other) : short = long ∧ after = other := by
    cases between with
    | nil => exact ⟨by rw [longer, List.append_nil], (List.cons.inj follows).2⟩
    | cons head tail =>
      obtain ⟨rfl, -⟩ := List.cons.inj follows
      rw [longer, List.count_append, List.count_cons_self] at counts
      omega
  rcases List.append_eq_append_iff.mp same with
    ⟨between, longer, follows⟩ | ⟨between, longer, follows⟩
  · exact together aligned longer follows
  · obtain ⟨fronts, rests⟩ := together aligned.symm longer follows
    exact ⟨fronts.symm, rests.symm⟩

namespace Solr.Client

variable {σ τ : Type}

/-- What the keys of the documents of a site and a type begin with. -/
def keyStem (client : Client σ) : List Char :=
  client.settings.siteId.toList ++ ':' :: (client.entityType.tag.toList ++ [':'])

/-- Two sites with equally many colons, and two types with equally many. -/
structure Aligned (first : Client σ) (second : Client τ) : Prop where
  sites : first.settings.siteId.toList.count ':' = second.settings.siteId.toList.count ':'
  types : first.entityType.tag.toList.count ':' = second.entityType.tag.toList.count ':'

theorem toList_indexId (client : Client σ) (id : String) :
    (client.indexId id).toList = client.keyStem ++ id.toList := by
  unfold indexId keyStem
  simp only [String.toList_append, List.append_assoc, List.cons_append]
  rfl

/-- The key of a document is that of the id, whatever the record says itself. -/
theorem key?_document (client : Client σ) (record : Record) (id : String) :
    (client.document record id).key? = some (client.indexId id) := by
  unfold Record.key? Record.get? document Record.insert
  simp only [SortedMap.get?_insert]
  rfl

variable {first : Client σ} {second : Client τ}

/-- Where the colons are aligned, a key is read back in one way only. -/
theorem indexId_eq_iff_of_aligned (aligned : first.Aligned second) {id other : String} :
    first.indexId id = second.indexId other ↔
      first.settings.siteId = second.settings.siteId ∧ first.entityType = second.entityType ∧
        id = other := by
  constructor
  · intro same
    have written := congrArg String.toList same
    rw [toList_indexId, toList_indexId] at written
    simp only [keyStem, List.append_assoc, List.cons_append, List.nil_append] at written
    obtain ⟨sites, further⟩ := append_cons_inj aligned.sites written
    obtain ⟨tags, ids⟩ := append_cons_inj aligned.types further
    exact ⟨String.toList_inj.mp sites, congrArg EntityType.mk (String.toList_inj.mp tags),
      String.toList_inj.mp ids⟩
  · rintro ⟨sites, types, rfl⟩
    unfold indexId
    rw [sites, types]

/-- Two keys are the same if what one stem has more than the other stands at the start of an id. -/
theorem indexId_shared_of_prefix (stems : first.keyStem <+: second.keyStem) :
    ∃ id other, first.indexId id = second.indexId other := by
  obtain ⟨excess, split⟩ := stems
  refine ⟨String.ofList excess, "", String.toList_inj.mp ?_⟩
  rw [toList_indexId, toList_indexId, String.toList_ofList, split]
  exact (List.append_nil _).symm

/-- **Sites and types have a key in common just if one of their stems begins with the other.** -/
theorem indexId_shared_iff :
    (∃ id other, first.indexId id = second.indexId other) ↔
      first.keyStem <+: second.keyStem ∨ second.keyStem <+: first.keyStem := by
  constructor
  · rintro ⟨id, other, same⟩
    have written := congrArg String.toList same
    rw [toList_indexId, toList_indexId] at written
    exact List.prefix_or_prefix_of_prefix (List.prefix_append _ id.toList)
      (written ▸ List.prefix_append _ other.toList)
  · rintro (stems | stems)
    · exact indexId_shared_of_prefix stems
    · obtain ⟨id, other, same⟩ := indexId_shared_of_prefix stems
      exact ⟨other, id, same.symm⟩

/-- **Two documents belong to the same site, type and id just if they have the same key and their
colons are aligned; and there are keys that two sites and types share just if one of their stems
begins with the other.** -/
theorem document_key_eq_iff (first : Client σ) (second : Client τ) :
    (∀ (record other : Record) (id otherId : String),
      (first.document record id).key? = (second.document other otherId).key? ∧
          first.Aligned second ↔
        first.settings.siteId = second.settings.siteId ∧ first.entityType = second.entityType ∧
          id = otherId) ∧
    ((∃ (record other : Record) (id otherId : String),
      (first.document record id).key? = (second.document other otherId).key?) ↔
        first.keyStem <+: second.keyStem ∨ second.keyStem <+: first.keyStem) := by
  simp only [key?_document, Option.some.injEq]
  refine ⟨fun _ _ id otherId => ⟨?parts, ?keys⟩, ?shared⟩
  case parts =>
    rintro ⟨same, aligned⟩
    exact (indexId_eq_iff_of_aligned aligned).mp same
  case keys =>
    intro parts
    have aligned : first.Aligned second := ⟨by rw [parts.1], by rw [parts.2.1]⟩
    exact ⟨(indexId_eq_iff_of_aligned aligned).mpr parts, aligned⟩
  case shared =>
    rw [← indexId_shared_iff]
    exact ⟨fun ⟨_, _, shared⟩ => shared, fun shared => ⟨.empty, .empty, shared⟩⟩

/-- **The key alone does not tell documents of different sites apart.** The dataset `package:x` of
the site `a` has the key of the dataset `x` of the site `a:package`. -/
theorem document_key_collides :
    ¬ ∀ (first second : Client Unit) (record other : Record) (id otherId : String),
      record.id? = some id → other.id? = some otherId →
      (first.document record id).key? = (second.document other otherId).key? →
        first.settings.siteId = second.settings.siteId ∧ first.entityType = second.entityType ∧
          id = otherId := by
  intro apart
  let site (siteId : String) : Client Unit :=
    ⟨(Settings.ofUrl "http://solr:8983/solr/ckan").withSiteId siteId, .package, .unreachable⟩
  have sites := (apart (site "a") (site "a:package") (.idOnly "package:x") (.idOnly "x")
    "package:x" "x" (Record.id?_idOnly _) (Record.id?_idOnly _)
    (by rw [key?_document, key?_document]; decide)).1
  exact absurd sites (by decide)

end Solr.Client

end CatalogSync
