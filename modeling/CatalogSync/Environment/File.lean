/-
**Files of variables.**

* `EnvironmentFile.read` — the assignments of a file up to the first line that cannot be read.
* `EnvironmentFile.overlay` — the variables with those of a file added. A variable that is set
  already keeps its value, and an assignment sees those before it. No variable can be given a value
  with a null character.
-/

import CatalogSync.Environment.Assignment

namespace CatalogSync.EnvironmentFile

/-- The lines of some bytes. -/
def byteLines : List UInt8 → List (List UInt8)
  | [] => [[]]
  | byte :: rest =>
    if byte = 10 then [] :: byteLines rest
    else
      match byteLines rest with
      | line :: lines => (byte :: line) :: lines
      | [] => [[byte]]

/-- The assignments of lines, up to the first that cannot be read. -/
def assignments : List (List UInt8) → List Assignment
  | [] => []
  | line :: rest =>
    match (String.fromUTF8? ⟨line.toArray⟩).bind Assignment.read? with
    | some (some assignment) => assignment :: assignments rest
    | some none => assignments rest
    | none => []

/-- The assignments of a file, up to the first line that cannot be read. -/
def read (content : ByteArray) : List Assignment := assignments (byteLines content.toList)

/-- The variables with an assignment added, unless the variable is set already. -/
def assign (lookup : String → Option String) (assignment : Assignment) :
    Option (String → Option String) :=
  if (lookup assignment.name).isSome then some lookup
  else
    let value := assignment.value lookup
    if value.toList.contains '\x00' then none
    else some fun name => if name = assignment.name then some value else lookup name

/-- The variables with assignments added one after the other, unless one of them cannot be made. -/
def overlay (assignments : List Assignment) (lookup : String → Option String) :
    Option (String → Option String) :=
  assignments.foldlM assign lookup

end CatalogSync.EnvironmentFile
