/-
**The settings of the synchroniser.**

* `Settings` — how to reach the engine and the store of record, and whether changes are indexed
  automatically.
* `Settings.load` — the settings that named variables give, and a warning for every variable whose
  value is not understood. A blank variable counts as unset.
-/

import CatalogSync.Event
import CatalogSync.Solr.Settings
import CatalogSync.Text.Blank
import CatalogSync.Text.Digits
import CatalogSync.Text.Lowercase

namespace CatalogSync

/-- The settings of the synchroniser. -/
structure Settings where
  solr : Solr.Settings
  databaseUrl : Option String
  automatic : Bool
  deriving Repr, DecidableEq

namespace Settings

/-- The address of the engine unless told otherwise. -/
def defaultSolrUrl : String := "http://localhost:8983/solr/ckan"

/-- The names of the variables that give settings. -/
def variableNames : List String :=
  ["SOLR_URL", "SOLR_USER", "SOLR_PASSWORD", "SOLR_TIMEOUT_SECS", "CATALOG_SITE_ID",
    "SEARCH_ROWS_MAX", "DATABASE_URL", "SEARCH_AUTOMATIC_INDEXING"]

/-- The value of a variable that is set and not blank. -/
def given (lookup : String → Option String) (name : String) : Option String :=
  (lookup name).filter fun value => !Text.isAllBlank value

/-- A number, or the default and a warning if the value is none. -/
def numberOr (name : String) (value : Option String) (default : Nat) : Nat × List Event :=
  match value with
  | none => (default, [])
  | some value =>
    match Text.word? (Text.trim value) with
    | some number => (number, [])
    | none =>
      (default,
        [⟨.warn, "Invalid number, using default",
          [("key", .text name), ("value", .text value), ("default", .text (toString default))]⟩])

/-- The truth value that a text means. -/
def truth? (value : String) : Option Bool :=
  let word := Text.lowercase (Text.trim value)
  if word ∈ ["true", "1", "yes", "on"] then some true
  else if word ∈ ["false", "0", "no", "off"] then some false
  else none

/-- Whether to index automatically: yes, unless the value says no; a warning if it says neither. -/
def automaticOr (value : Option String) : Bool × List Event :=
  match value with
  | none => (true, [])
  | some value =>
    match truth? value with
    | some automatic => (automatic, [])
    | none =>
      (true,
        [⟨.warn, "Invalid SEARCH_AUTOMATIC_INDEXING, defaulting to true",
          [("value", .text value)]⟩])

/-- The settings with the account that two variables give, if both are there. -/
def authorized (settings : Solr.Settings) (user password : Option String) : Solr.Settings :=
  match user, password with
  | some user, some password => settings.withCredentials user password
  | _, _ => settings

/-- The settings that variables give, with warnings about values that are not understood. -/
def load (lookup : String → Option String) : Settings × List Event :=
  let setting := given lookup
  let timeout := numberOr "SOLR_TIMEOUT_SECS" (setting "SOLR_TIMEOUT_SECS")
    Solr.Settings.defaultTimeoutSeconds
  let rowsMax := numberOr "SEARCH_ROWS_MAX" (setting "SEARCH_ROWS_MAX")
    Solr.Settings.defaultRowsMax
  let automatic := automaticOr (setting "SEARCH_AUTOMATIC_INDEXING")
  let solr := (((Solr.Settings.ofUrl ((setting "SOLR_URL").getD defaultSolrUrl)).withSiteId
    ((setting "CATALOG_SITE_ID").getD Solr.Settings.defaultSiteId)).withRowsMax
    rowsMax.1).withTimeout timeout.1
  (⟨authorized solr (setting "SOLR_USER") (setting "SOLR_PASSWORD"), setting "DATABASE_URL",
    automatic.1⟩, timeout.2 ++ rowsMax.2 ++ automatic.2)

end Settings

end CatalogSync
