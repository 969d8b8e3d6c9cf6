/-
**What bulk operations are asked for and what they report.**

* `Selector`, `RebuildOptions` — which records to rebuild, and how.
* `RebuildSummary` — how a rebuild went.
* `CheckReport` — the active records that the index does not hold.
-/

import CatalogSync.Record

namespace CatalogSync

/-- Which records a rebuild works on. -/
inductive Selector where
  /-- The record with an id or a name. -/
  | one (reference : String)
  /-- The records with these ids. -/
  | many (ids : List String)
  /-- Every record that is not deleted. -/
  | all
  deriving DecidableEq, Repr

/-- How a rebuild works. -/
structure RebuildOptions where
  /-- Skip the records that the index holds. -/
  onlyMissing : Bool
  /-- Go on after a record that fails. -/
  force : Bool
  /-- Leave the writes pending. -/
  deferCommit : Bool
  /-- Empty the index before. -/
  clearFirst : Bool
  /-- Do not tell of every record. -/
  quiet : Bool
  deriving DecidableEq, Repr, Inhabited

/-- How a rebuild ended. -/
inductive RebuildOutcome where
  | completed
  | nothingMissing
  deriving DecidableEq, Repr, Inhabited

/-- The name of an outcome. -/
def RebuildOutcome.name : RebuildOutcome → String
  | .completed => "completed"
  | .nothingMissing => "nothing_missing"

/-- How a rebuild went. -/
structure RebuildSummary where
  total : Nat
  indexed : Nat
  failedIds : List String
  outcome : RebuildOutcome
  deriving DecidableEq, Repr, Inhabited

namespace RebuildSummary

/-- The summary of a rebuild that found nothing to do. -/
def nothingMissing : RebuildSummary := ⟨0, 0, [], .nothingMissing⟩

/-- The number of records that failed. -/
def failed (summary : RebuildSummary) : Nat := summary.failedIds.length

/-- The line that is shown to people. -/
def display (summary : RebuildSummary) : String :=
  match summary.outcome with
  | .nothingMissing => "All datasets are already indexed"
  | .completed =>
    "Indexed " ++ toString summary.indexed ++ " of " ++ toString summary.total ++
      " datasets (" ++ toString summary.failed ++ " failed)"

/-- The summary as an object. -/
def toValue (summary : RebuildSummary) : Value :=
  .object
    [("failed_ids", .ofTexts summary.failedIds),
      ("indexed", .number summary.indexed),
      ("outcome", .text summary.outcome.name),
      ("total", .number summary.total)]

end RebuildSummary

/-- The active records that the index does not hold. -/
structure CheckReport where
  totalActive : Nat
  missing : List RecordSummary
  deriving DecidableEq, Repr, Inhabited

namespace CheckReport

/-- The number of missing records. -/
def missingCount (report : CheckReport) : Nat := report.missing.length

/-- Whether no record is missing. -/
def isConsistent (report : CheckReport) : Bool := report.missing.isEmpty

/-- The line about one missing record: when it was changed, a dash if unknown, and its name. -/
def line (summary : RecordSummary) : String :=
  "\n" ++ (summary.modified.map Time.Instant.shown).getD "-" ++ " " ++ summary.name

/-- The lines that are shown to people. -/
def display (report : CheckReport) : String :=
  "Datasets not indexed = " ++ toString report.missingCount ++ " out of " ++
    toString report.totalActive ++ String.join (report.missing.map line)

/-- The report as an object. -/
def toValue (report : CheckReport) : Value :=
  .object
    [("missing", .list (report.missing.map RecordSummary.toValue)),
      ("total_active", .number report.totalActive)]

end CheckReport

end CatalogSync
