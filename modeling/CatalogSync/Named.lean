/-
**Types with finitely many named members.**

* `Named` — the members of such a type in order, each with its name.
* `Named.ofName?`, `Named.ofValue?` — the member that a text or a record value denotes. A value
  denotes a member by its name as a text, or by an object with that one name and null under it.
* `Named.unknownMessage` — the complaint about a text that is no name.
-/

import CatalogSync.Value

namespace CatalogSync

/-- A type whose members are listed and named. -/
class Named (α : Type) where
  members : List α
  name : α → String

namespace Named

variable {α : Type} [Named α]

/-- The member with a given name. -/
def ofName? (wanted : String) : Option α :=
  (members (α := α)).find? fun member => name member == wanted

/-- The member that a value denotes. -/
def ofValue? : Value → Option α
  | .text wanted => ofName? wanted
  | .object [(wanted, .null)] => ofName? wanted
  | _ => none

/-- The complaint about a text that is no name of a member. -/
def unknownMessage (α : Type) [Named α] (found : String) : String :=
  let expected := (members (α := α)).map fun member => "`" ++ name member ++ "`"
  "unknown variant `" ++ found ++ "`, expected one of " ++ ", ".intercalate expected

end Named

end CatalogSync
