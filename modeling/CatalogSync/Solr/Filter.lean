/-
**Queries.**

* `Solr.quote` — a text as a phrase: between quotes, with a backslash before quotes and backslashes.
* `Solr.siteFilter`, `Solr.scopeFilter`, `Solr.referenceFilter` — the filters for the documents of a
  site, for those of one type, and for those of them that have a given id or name.
-/

namespace CatalogSync.Solr

/-- How a character stands in a phrase. -/
def quoteCharacter (character : Char) : List Char :=
  if character = '\\' ∨ character = '"' then ['\\', character] else [character]

/-- The text as a phrase. -/
def quote (text : String) : String :=
  String.ofList (['"'] ++ text.toList.flatMap quoteCharacter ++ ['"'])

/-- The filter for the documents of a site. -/
def siteFilter (siteId : String) : String := "+site_id:" ++ quote siteId

/-- The filter for the documents of one type that belong to a site. -/
def scopeFilter (siteId tag : String) : String :=
  siteFilter siteId ++ " +entity_type:" ++ quote tag

/-- The filter for the documents of a scope that have the reference as their id or name. -/
def referenceFilter (scope reference : String) : String :=
  scope ++ " +(id:" ++ quote reference ++ " OR name:" ++ quote reference ++ ")"

end CatalogSync.Solr
