/-
**How to reach a Solr core.**

* `Solr.Settings` — the address, the account, the site whose documents are meant, the number of rows
  to ask for at once and the time to wait. At least one row is asked for.
* `Solr.Settings.baseUrl`, `Solr.Settings.credentials?` — the address without the slashes at its
  end, and the account if both of its parts are there.
-/

namespace CatalogSync.Solr

/-- How to reach a Solr core. -/
structure Settings where
  url : String
  user : Option String
  password : Option String
  siteId : String
  rowsMax : Nat
  timeoutSeconds : Nat
  rowsMax_pos : 0 < rowsMax
  deriving Repr, DecidableEq

namespace Settings

/-- The rows that are asked for at once unless told otherwise. -/
def defaultRowsMax : Nat := 1000

/-- The seconds that an answer may take unless told otherwise. -/
def defaultTimeoutSeconds : Nat := 60

/-- The site whose documents are meant unless told otherwise. -/
def defaultSiteId : String := "default"

/-- The settings for an address. -/
def ofUrl (url : String) : Settings :=
  ⟨url, none, none, defaultSiteId, defaultRowsMax, defaultTimeoutSeconds, by decide⟩

instance : Inhabited Settings := ⟨ofUrl ""⟩

/-- The settings with an account. -/
def withCredentials (settings : Settings) (user password : String) : Settings :=
  { settings with user := some user, password := some password }

/-- The settings for another site. -/
def withSiteId (settings : Settings) (siteId : String) : Settings := { settings with siteId }

/-- The settings with another number of rows; none counts as one. -/
def withRowsMax (settings : Settings) (rowsMax : Nat) : Settings :=
  { settings with rowsMax := max rowsMax 1, rowsMax_pos := Nat.le_max_right rowsMax 1 }

/-- The settings with another time to wait. -/
def withTimeout (settings : Settings) (timeoutSeconds : Nat) : Settings :=
  { settings with timeoutSeconds }

/-- The account, if both of its parts are there. -/
def credentials? (settings : Settings) : Option (String × String) :=
  match settings.user, settings.password with
  | some user, some password => some (user, password)
  | _, _ => none

/-- The address without the slashes at its end. -/
def baseUrl (settings : Settings) : String :=
  String.ofList (settings.url.toList.reverse.dropWhile (· == '/')).reverse

end Settings

end CatalogSync.Solr
