/-
**The command line.**

* `main` — runs the command that the arguments ask for, with the variables of the environment and of
  the file `.env` in the working directory.

All that is decided is decided by `Command.launch`; this module only reads what it needs and prints
what it reports. The program has no network of its own.
-/

import CatalogSync.Command.Execution

namespace CatalogSync

/-- The reason why a file cannot be read. -/
def readingProblem (error : IO.Error) : String :=
  match error with
  | .noFileOrDirectory .. => "No such file or directory (os error 2)"
  | .permissionDenied .. => "Permission denied (os error 13)"
  | .inappropriateType _ code _ =>
    if code = 21 then "Is a directory (os error 21)" else "Not a directory (os error 20)"
  | _ => toString error

/-- The content of a file, or the reason why it cannot be read. -/
def contentOf (path : String) : IO (Except String ByteArray) := do
  match ← (IO.FS.readBinFile path).toBaseIO with
  | .ok content => pure (.ok content)
  | .error problem => pure (.error (readingProblem problem))

/-- The variables that have one of the given names. -/
def variablesNamed (names : List String) : IO (List (String × String)) :=
  names.filterMapM fun name => do
    let value ← IO.getEnv name
    pure (value.map fun value => (name, value))

/-- The content of every argument that is the path of a file. -/
def contentsOf (paths : List String) : IO (List (String × Except String ByteArray)) :=
  paths.mapM fun path => do
    let content ← contentOf path
    pure (path, content)

/-- The path of the file that arguments ask to check. -/
def checkedPath? (arguments : List String) : Option String :=
  match Command.read arguments with
  | .ok (.checkSchema path) => path
  | _ => none

end CatalogSync

open CatalogSync

/-- Runs the command that the arguments ask for and gives its exit code. -/
def main (arguments : List String) : IO UInt32 := do
  let assignments :=
    match ← contentOf ".env" with
    | .ok content => EnvironmentFile.read content
    | .error _ => []
  let names := Settings.variableNames ++
    assignments.flatMap fun assignment => assignment.name :: assignment.mentioned
  let given ← variablesNamed names
  let contents ← contentsOf (checkedPath? arguments).toList
  let files := fun path => (contents.lookup path).getD (.error "")
  let (report, _) := Command.launch (.isolated : Surroundings Unit) (fun name => given.lookup name)
    assignments files arguments ()
  IO.print report.output
  IO.eprint report.complaint
  pure report.exitCode.toUInt32
