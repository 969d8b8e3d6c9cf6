/-
**A store of record in a relational database.**

* `Sql.Session σ` — whoever runs statements, in a state `σ`. A refusal carries the text of the
  server.
* `Sql.Session.store` — the datasets of the database as a store of record. A record is a row of the
  table of datasets with the names of the dataset's active tags added to it.
* `Sql.Script`, `Sql.Session.scripted` — results laid out beforehand, one for each statement, and
  the statements that were run. After the last result every statement yields no rows.

Statements only read, so ending the session has nothing to do.
-/

import CatalogSync.Store
import CatalogSync.Value.Reader

namespace CatalogSync.Sql

/-- A statement with the texts that stand for its parameters. -/
structure Statement where
  text : String
  arguments : List String
  deriving DecidableEq, Repr

/-- One column of a row. -/
inductive Cell where
  | null
  | text (content : String)
  /-- A time without a zone, in microseconds since the start of 2000. -/
  | timestamp (microseconds : Int)
  deriving DecidableEq, Repr

/-- What a statement yields: rows of cells, or the text of the server's refusal. -/
abbrev Answer : Type := Except String (List (List Cell))

/-- Whoever runs statements. -/
structure Session (σ : Type) where
  execute : Statement → σ → Answer × σ

/-- Results laid out beforehand, and the statements that were run, the latest first. -/
structure Script where
  answers : List Answer
  sent : List Statement

/-! ### Reading rows -/

/-- The failure of a column that does not hold what is expected. -/
def undecodable (column : Nat) (reason : String) : SearchError :=
  .store ("error occurred while decoding column " ++ toString column ++ ": " ++ reason)

/-- The complaint about a missing value. -/
def unexpectedNull : String := "unexpected null; try decoding as an \x60Option\x60"

/-- The complaint about a value of another type. -/
def mismatched : String := "mismatched types"

/-- The text in a column. -/
def textAt (row : List Cell) (column : Nat) : Except SearchError String :=
  match row[column]? with
  | some (.text content) => .ok content
  | some (.timestamp _) => .error (undecodable column mismatched)
  | some .null | none => .error (undecodable column unexpectedNull)

/-- The second that starts the year 2000. -/
def startOf2000 : Int := 946684800

/-- The instant of a number of microseconds since the start of 2000, in UTC. -/
def instantOf (microseconds : Int) : Option Time.Instant :=
  Time.Instant.ofParts? (startOf2000 + microseconds / 1000000)
    ((microseconds % 1000000).toNat * 1000)

/-- The time in a column, if there is one. -/
def timeAt (row : List Cell) (column : Nat) : Except SearchError (Option Time.Instant) :=
  match row[column]? with
  | some (.timestamp microseconds) => .ok (instantOf microseconds)
  | some (.text _) => .error (undecodable column mismatched)
  | some .null | none => .ok none

/-- The summary in a row of an id, a name and a time. -/
def summaryOf (row : List Cell) : Except SearchError RecordSummary := do
  let id ← textAt row 0
  let name ← textAt row 1
  let modified ← timeAt row 2
  .ok ⟨id, name, modified⟩

/-- The record in the text of an object. -/
def recordOf (text : String) : Except SearchError Record :=
  match (Value.read? text).bind fun value => Record.ofValue? value.canonical with
  | some record => .ok record
  | none => .error (.parse "The row is not a JSON object")

/-! ### Statements -/

/-- The row of a dataset with an id or a name. -/
def selectRow (reference : String) : Statement :=
  ⟨"SELECT row_to_json(p)::text FROM package p WHERE p.id = $1 OR p.name = $1 LIMIT 1",
    [reference]⟩

/-- The names of a dataset's active tags. -/
def selectTags (id : String) : Statement :=
  ⟨"SELECT t.name FROM tag t JOIN package_tag pt ON pt.tag_id = t.id " ++
    "WHERE pt.package_id = $1 AND pt.state = 'active' ORDER BY t.name", [id]⟩

/-- The ids of the datasets in a scope. -/
def selectIds : IdScope → Statement
  | .notDeleted => ⟨"SELECT id FROM package WHERE state <> 'deleted' ORDER BY id", []⟩
  | .active => ⟨"SELECT id FROM package WHERE state = 'active' ORDER BY id", []⟩

/-- The summary of a dataset. -/
def selectSummary (id : String) : Statement :=
  ⟨"SELECT id, name, metadata_modified FROM package WHERE id = $1", [id]⟩

namespace Session

variable {σ τ : Type}

/-- The session that lives in a part of a larger state. -/
def on (lens : Lens σ τ) (session : Session τ) : Session σ where
  execute statement state :=
    let (answer, part) := session.execute statement (lens.get state)
    (answer, lens.set state part)

/-- The session that follows a script. -/
def scripted : Session Script where
  execute statement script :=
    match script.answers with
    | [] => (.ok [], { script with sent := statement :: script.sent })
    | answer :: rest => (answer, ⟨rest, statement :: script.sent⟩)

/-- The rows that a statement yields. -/
def rows (session : Session σ) (statement : Statement) : Action σ (List (List Cell)) := fun state =>
  match session.execute statement state with
  | (.ok rows, reached) => ⟨.ok rows, reached, []⟩
  | (.error refusal, reached) =>
    ⟨.error (.store ("error returned from database: " ++ refusal)), reached, []⟩

/-- Fails unless the type is that of datasets, the only one that the database holds. -/
def ensurePackage (entityType : EntityType) : Action σ Unit :=
  if entityType = .package then pure () else .fail (.unknownType entityType.tag)

/-- The texts in the first columns of the rows that a statement yields. -/
def texts (session : Session σ) (statement : Statement) : Action σ (List String) := do
  let rows ← session.rows statement
  .ofExcept (rows.mapM (textAt · 0))

/-- The record with a given id or name. -/
def fetch (session : Session σ) (entityType : EntityType) (reference : String) :
    Action σ Record := do
  ensurePackage entityType
  match (← session.rows (selectRow reference)).head? with
  | none => .fail (.notFound ("package " ++ reference))
  | some row => do
    let record ← .ofExcept (textAt row 0 >>= recordOf)
    let id := record.id?.getD reference
    let tags ← session.texts (selectTags id)
    .tell .debug "Fetched package from store" [("id", .text id)]
    pure (record.insert "tags" (.ofTexts tags))

/-- The ids of the records in a scope. -/
def enumerate (session : Session σ) (entityType : EntityType) (scope : IdScope) :
    Action σ (List String) := do
  ensurePackage entityType
  session.texts (selectIds scope)

/-- The summary of the record with a given id. -/
def summarize (session : Session σ) (entityType : EntityType) (id : String) :
    Action σ (Option RecordSummary) := do
  ensurePackage entityType
  match (← session.rows (selectSummary id)).head? with
  | none => pure none
  | some row => do
    let summary ← .ofExcept (summaryOf row)
    pure (some summary)

/-- The datasets of the database as a store of record. -/
def store (session : Session σ) : RecordStore σ where
  fetch := session.fetch
  enumerate := session.enumerate
  summarize := session.summarize
  commit := .tell .debug "Store session committed" []

end Session

end CatalogSync.Sql
