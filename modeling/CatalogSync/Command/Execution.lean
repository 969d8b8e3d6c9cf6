/-
**Carrying out commands.**

* `Operation.perform` — what an operation does, and the text that it prints.
* `Command.run` — the same for a command, from the settings on.
* `Report` — what is left of a run: an exit code, what was printed, and the complaint if it failed.
* `Command.execute` — a run from its arguments on.
* `Command.launch` — a run from the assignments of an environment file on.

Only commands that need the store of record connect to it. Checking a schema builds nothing but the
source of the schema.
-/

import CatalogSync.Command.Reader
import CatalogSync.Environment.File
import CatalogSync.Synchronizer
import CatalogSync.Value.Printer

namespace CatalogSync

/-- What is left of a run. -/
structure Report where
  exitCode : Nat
  output : String
  complaint : String
  deriving DecidableEq, Repr

/-- What an operation does, and the text that it prints. -/
def Operation.perform {σ : Type} (operation : Operation) (engine : Engine σ) : Action σ String :=
  match operation with
  | .rebuild selector options => do
    let summary ← engine.rebuild selector options
    pure summary.display
  | .commit => do
    engine.commit
    pure "Committed pending changes on the search index"
  | .check => do
    let report ← engine.check
    pure report.display
  | .display reference => do
    match ← engine.find reference with
    | some record => pure record.toValue.pretty
    | none => .fail (.notFound reference)
  | .clear (some reference) => do
    engine.clear reference
    pure ("Cleared " ++ reference ++ " from the search index")
  | .clear none => do
    engine.clearAll
    pure "Cleared the search index"

namespace Command

variable {σ : Type}

/-- What checking a schema does, and the line that it prints. -/
def performSchemaCheck (source : SchemaSource σ) (file : Option LocalFile) : Action σ String := do
  match ← SchemaGate.check source file with
  | .compatible version => pure ("Solr schema version " ++ version.text ++ " is supported")
  | .notApplicable => do
    .tell .warn "Solr is not available, schema version check skipped" []
    pure "Solr is not available; schema version check does not apply"

/-- What a command does, and the text that it prints. -/
def run (command : Command) (surroundings : Surroundings σ) (settings : Settings)
    (files : String → Except String ByteArray) : Action σ (Except SyncError String) :=
  match command with
  | .checkSchema path => do
    match ← Synchronizer.setUp (Synchronizer.schemaOnly surroundings settings) with
    | .error failure => pure (.error failure)
    | .ok source => do
      let text ← performSchemaCheck source (path.map fun path => ⟨path, files path⟩)
      pure (.ok text)
  | .operate operation =>
    if operation.readsStore then do
      match ← Synchronizer.full surroundings settings with
      | .error failure => pure (.error failure)
      | .ok synchronizer => do
        let text ← operation.perform synchronizer.engine
        pure (.ok text)
    else do
      match ← Synchronizer.setUp (Synchronizer.indexOnly surroundings settings) with
      | .error failure => pure (.error failure)
      | .ok synchronizer => do
        let text ← operation.perform synchronizer.engine
        pure (.ok text)

/-- The report on a run. -/
def reportOf : Except SearchError (Except SyncError String) → Report
  | .ok (.ok text) => ⟨0, text ++ "\n", ""⟩
  | .ok (.error failure) => ⟨1, "", "Error: " ++ failure.report ++ "\n"⟩
  | .error failure => ⟨1, "", "Error: " ++ (SyncError.search failure).report ++ "\n"⟩

/-- Runs the command that arguments ask for, with the settings that variables give. -/
def execute (surroundings : Surroundings σ) (lookup : String → Option String)
    (files : String → Except String ByteArray) (arguments : List String) (state : σ) :
    Report × σ :=
  match read arguments with
  | .error .helpWanted => (⟨0, usage, ""⟩, state)
  | .error .misuse => (⟨2, "", usage⟩, state)
  | .ok command =>
    let outcome := (command.run surroundings (Settings.load lookup).1 files).run state
    (reportOf outcome.result, outcome.state)

/-- The report on a run that could not start, since a variable cannot be given its value. -/
def crashed : Report := ⟨101, "", "A variable cannot hold a null character\n"⟩

/-- Runs the command that arguments ask for, with the variables that are given and those that
assignments add to them. -/
def launch (surroundings : Surroundings σ) (given : String → Option String)
    (assignments : List Assignment) (files : String → Except String ByteArray)
    (arguments : List String) (state : σ) : Report × σ :=
  match EnvironmentFile.overlay assignments given with
  | none => (crashed, state)
  | some lookup => execute surroundings lookup files arguments state

end Command

end CatalogSync
