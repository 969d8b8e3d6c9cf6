/-
**Versions of the engine's schema.**

* `SchemaVersion` — the version that a schema document claims to have.
* `SchemaVersion.isSupported` — whether documents may be written against such a schema.
-/

namespace CatalogSync

/-- The version that a schema document claims to have. -/
structure SchemaVersion where
  text : String
  deriving DecidableEq, Repr, Inhabited

namespace SchemaVersion

/-- The versions that documents may be written against. -/
def supported : List String := ["2.8", "2.9"]

/-- Whether documents may be written against the version. -/
def isSupported (version : SchemaVersion) : Bool := supported.contains version.text

/-- The supported versions as they are listed for people. -/
def supportedList : String := ", ".intercalate supported

end SchemaVersion

end CatalogSync
