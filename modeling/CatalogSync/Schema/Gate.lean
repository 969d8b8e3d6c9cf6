/-
**Checking the engine's schema before anything is written.**

* `SchemaSource σ` — where schemas are fetched from, in one of two places.
* `SchemaGate.checkWith` — whether the engine's schema, or the one in a local file, has a supported
  version, for any reader of documents. An engine that cannot be reached is not an incompatible one.
* `SchemaGate.check` — the same with the reader for markup.
* `SchemaGate.versionOf` — the supported version that a schema document claims.

Of a source the managed schema is asked for first, and the classic one only if the engine answered
that it has no managed schema.
-/

import CatalogSync.Action
import CatalogSync.Markup.Document
import CatalogSync.Schema.Version

namespace CatalogSync

/-- The places where an engine keeps its schema. -/
inductive SchemaLocation where
  | managed
  | classic
  deriving DecidableEq, Repr

/-- The path of a place below the address of the engine. -/
def SchemaLocation.offset : SchemaLocation → String
  | .managed => "/schema?wt=schema.xml"
  | .classic => "/admin/file/?file=schema.xml"

/-- Where schemas are fetched from. -/
structure SchemaSource (σ : Type) where
  isAvailable : Action σ Bool
  fetchSchema : SchemaLocation → Action σ String

/-- A local file: its path, and its content or the reason why it cannot be read. -/
structure LocalFile where
  path : String
  content : Except String ByteArray

/-- The text of the file, or the reason why it cannot be read as text. -/
def LocalFile.text (file : LocalFile) : Except String String :=
  match file.content with
  | .error reason => .error reason
  | .ok bytes =>
    match String.fromUTF8? bytes with
    | some text => .ok text
    | none => .error "stream did not contain valid UTF-8"

/-- What a check finds if it does not fail. -/
inductive Compatibility where
  | compatible (version : SchemaVersion)
  /-- There is no engine to check. -/
  | notApplicable
  deriving DecidableEq, Repr

namespace SchemaGate

variable {σ : Type}

/-- The failure of a schema document that is not well-formed. -/
def unreadable : SearchError := .parse "Invalid schema document: not well-formed"

/-- The failure of a schema without a version, from a local file if a path is given. -/
def missingVersion (path : Option String) : SearchError :=
  .schema ("Could not extract version info from the Solr schema" ++
    (path.map fun path => ", using file " ++ path).getD "")

/-- The failure of a schema whose version is not supported. -/
def unsupportedVersion (version : SchemaVersion) : SearchError :=
  .schema ("Solr schema version not supported: " ++ version.text ++
    ". Supported versions are [" ++ SchemaVersion.supportedList ++ "]")

/-- The schema of an engine, from the first place that has one. -/
def fetchRemote (source : SchemaSource σ) : Action σ String := do
  match ← (source.fetchSchema .managed).attempt with
  | .ok content => pure content
  | .error failure =>
    if failure.isHttp then do
      .tell .info "Managed schema unavailable, trying the classic schema file"
        [("error", .text failure.message)]
      source.fetchSchema .classic
    else
      .fail failure

/-- Tells of a supported version. -/
def accept (version : SchemaVersion) : Action σ Compatibility := do
  .tell .info "Search engine schema version is supported" [("version", .text version.text)]
  pure (.compatible version)

section Reading

/-! A reader of documents gives the root element of a text, or nothing if it is not well-formed. -/

variable (read : String → Option Markup.Element)

/-- The supported version that a schema document claims on its root element. -/
def versionOf (content : String) (path : Option String) : Except SearchError SchemaVersion :=
  match read content with
  | none => .error unreadable
  | some root =>
    match (root.attribute? "version").filter fun version => !version.isEmpty with
    | none => .error (missingVersion path)
    | some version =>
      if (SchemaVersion.mk version).isSupported then .ok ⟨version⟩
      else .error (unsupportedVersion ⟨version⟩)

/-- Whether the engine's schema, or the one in a local file, has a supported version. -/
def checkWith (source : SchemaSource σ) (file : Option LocalFile) : Action σ Compatibility := do
  match file with
  | some file =>
    match file.text with
    | .error reason => .fail (.io ("Failed to read " ++ file.path ++ ": " ++ reason))
    | .ok content => do
      let version ← .ofExcept (versionOf read content (some file.path))
      accept version
  | none =>
    if ← source.isAvailable then do
      let content ← fetchRemote source
      let version ← .ofExcept (versionOf read content none)
      accept version
    else do
      .tell .warn "Problems were found while connecting to the search engine" []
      pure .notApplicable

end Reading

/-- The check of schemas in markup. -/
def check (source : SchemaSource σ) (file : Option LocalFile) : Action σ Compatibility :=
  checkWith Markup.Document.root? source file

end SchemaGate

end CatalogSync
