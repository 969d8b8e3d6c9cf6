/-
**Commands as they are typed.**

* `Command.read` — the command that arguments ask for.
* `Command.usage` — a reminder of the forms that commands have.
-/

import CatalogSync.Command
import CatalogSync.Command.Arguments

namespace CatalogSync.Command

/-- What rebuilding takes. -/
def rebuildGrammar : Grammar :=
  ⟨[⟨"only-missing", 'o'⟩, ⟨"force", 'f'⟩, ⟨"defer-commit", 'e'⟩, ⟨"clear", 'c'⟩, ⟨"quiet", 'q'⟩],
    [⟨"ids", true, true⟩], 1⟩

/-- What commands take that have at most some free arguments. -/
def freeGrammar (freeCount : Nat) : Grammar := ⟨[], [], freeCount⟩

/-- What checking the schema takes. -/
def checkSchemaGrammar : Grammar := ⟨[], [⟨"file", false, false⟩], 0⟩

/-- The options of a rebuild. -/
def rebuildOptions (arguments : Arguments) : RebuildOptions where
  onlyMissing := arguments.has "only-missing"
  force := arguments.has "force"
  deferCommit := arguments.has "defer-commit"
  clearFirst := arguments.has "clear"
  quiet := arguments.has "quiet"

/-- The records that a rebuild is for: one, or given ones, but not both. -/
def selector? (arguments : Arguments) : Except Refusal Selector :=
  match arguments.free, arguments.valuesOf "ids" with
  | [], [] => .ok .all
  | [], ids => .ok (.many ids)
  | reference :: _, [] => .ok (.one reference)
  | _ :: _, _ :: _ => .error .misuse

/-- The command with a name, given what follows the name. -/
def readNamed (name : String) (rest : List String) : Except Refusal Command :=
  match name with
  | "rebuild" => do
    let arguments ← rebuildGrammar.read rest
    .ok (.operate (.rebuild (← selector? arguments) (rebuildOptions arguments)))
  | "commit" => do
    let _ ← (freeGrammar 0).read rest
    .ok (.operate .commit)
  | "check" => do
    let _ ← (freeGrammar 0).read rest
    .ok (.operate .check)
  | "show" => do
    let arguments ← (freeGrammar 1).read rest
    match arguments.free with
    | reference :: _ => .ok (.operate (.display reference))
    | [] => .error .misuse
  | "clear" => do
    let arguments ← (freeGrammar 1).read rest
    .ok (.operate (.clear arguments.free.head?))
  | "check-schema" => do
    let arguments ← checkSchemaGrammar.read rest
    .ok (.checkSchema (arguments.valuesOf "file").head?)
  | _ => .error .misuse

/-- The names of the commands. -/
def names : List String := ["rebuild", "commit", "check", "show", "clear", "check-schema", "help"]

/-- How to answer a request for help on a path of commands. -/
def helpOn (topics : List String) : Refusal :=
  match topics with
  | [] => .helpWanted
  | [topic] => if topic ∈ names then .helpWanted else .misuse
  | _ => .misuse

/-- The command that arguments ask for. -/
def read : List String → Except Refusal Command
  | [] => .error .misuse
  | "help" :: topics => .error (helpOn topics)
  | name :: rest =>
    match Grammar.formOf name with
    | .plain => readNamed name rest
    | _ =>
      match (freeGrammar 0).read [name] with
      | .error refusal => .error refusal
      | .ok _ => .error .misuse

/-- A reminder of the forms that commands have. -/
def usage : String :=
  "Maintain the catalog search index\n\n" ++
    "Usage: catalog-search <COMMAND>\n\n" ++
    "Commands:\n" ++
    "  rebuild [OPTIONS] [ID]       Reindex one dataset, a list of datasets, or all of them\n" ++
    "    --ids <IDS>...             Reindex these dataset ids\n" ++
    "    -o, --only-missing         Only index datasets not already in the index\n" ++
    "    -f, --force                Keep going when a dataset fails to index\n" ++
    "    -e, --defer-commit         Do not commit the index at the end\n" ++
    "    -c, --clear                Clear the index before rebuilding\n" ++
    "    -q, --quiet                Do not report progress\n" ++
    "  commit                       Commit pending changes on the index\n" ++
    "  check                        List active datasets missing from the index\n" ++
    "  show <ID>                    Show the indexed document of a dataset\n" ++
    "  clear [ID]                   Remove a dataset from the index, or every dataset\n" ++
    "  check-schema [--file <FILE>] Verify the Solr schema version is supported\n"

end CatalogSync.Command
