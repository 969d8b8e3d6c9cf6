/-
**Where a database is.**

* `Sql.Location` — the parts of the address of a database on which connecting to it depends.
* `Sql.Location.read` — the location that an address gives, or why it gives none.
* `Sql.LocationProblem.message` — the complaint about such an address.

An address names a host, or, where the host starts with a slash, the directory of a socket. Its
query may set both and more; parameters without a meaning are passed over.
-/

import CatalogSync.Text.Bytes
import CatalogSync.Text.Digits
import CatalogSync.Text.Lowercase
import CatalogSync.Text.Quoted
import CatalogSync.Url.Address

namespace CatalogSync.Sql

/-- Why an address gives no location. -/
inductive LocationProblem where
  | address (problem : Url.Problem)
  | encoding (flaw : Text.Flaw)
  | number (problem : Text.NumberProblem)
  | encryption (mode : String)
  | internetAddress
  deriving DecidableEq, Repr

/-- The complaint about an address. -/
def LocationProblem.message (problem : LocationProblem) : String :=
  "error with configuration: " ++
    match problem with
    | .address problem => problem.message
    | .encoding flaw => flaw.message
    | .number problem => problem.message
    | .encryption mode =>
      "error with configuration: unknown value " ++ Text.quoted mode ++ " for \x60ssl_mode\x60"
    | .internetAddress => "invalid IP address syntax"

/-- The parts of the address of a database on which connecting to it depends. -/
structure Location where
  /-- The directory of a socket on this host, which goes before any other host. -/
  socket : Option String
  host : String
  port : Nat
  deriving DecidableEq, Repr

namespace Location

/-- The host of a database unless told otherwise. -/
def defaultHost : String := "localhost"

/-- The port of a database unless told otherwise. -/
def defaultPort : Nat := 5432

/-- The first number that is no port. -/
def portLimit : Nat := 65536

/-- The ways in which a connection may be encrypted. -/
def encryptionModes : List String :=
  ["disable", "allow", "prefer", "require", "verify-ca", "verify-full"]

/-- The text of a part of an address, percent signs resolved. -/
def decoded (part : String) : Except LocationProblem String :=
  (Text.Utf8.read (Url.Percent.decodeBytes part.toList)).mapError .encoding

/-- A number below a limit. -/
def numberBelow (limit : Nat) (text : String) : Except LocationProblem Nat :=
  (Text.decimal limit text).mapError .number

/-- The location with a host, which may be the directory of a socket. -/
def withHost (location : Location) (host : String) : Location :=
  if host.toList.head? = some '/' then { location with socket := some host }
  else { location with host }

/-- The location with a parameter of the query. -/
def withParameter (location : Location) (parameter : String × String) :
    Except LocationProblem Location :=
  let (name, value) := parameter
  if name ∈ ["sslmode", "ssl-mode"] then
    if String.ofList (value.toList.map Char.toLower) ∈ encryptionModes then .ok location
    else .error (.encryption value)
  else if name = "statement-cache-capacity" then
    (numberBelow Text.wordLimit value).map fun _ => location
  else if name = "port" then
    (numberBelow portLimit value).map fun port => { location with port }
  else if name = "hostaddr" then
    if Url.Host.isInternetAddress value.toList then .ok { location with host := value }
    else .error .internetAddress
  else if name = "host" then .ok (location.withHost value)
  else .ok location

/-- The location that a well-formed address gives. The account and the name of the database have to
be text, even though they do not matter here. -/
def ofAddress (address : Url.Address) : Except LocationProblem Location := do
  let host := ((address.host.filter fun _ => address.hasHost).map Url.Host.text).getD defaultHost
  let start : Location := ⟨none, host, address.port.getD defaultPort⟩
  let location ←
    if (Url.Percent.decodeBytes host.toList).head? = some '/'.toUInt8 then
      (decoded host).map start.withHost
    else .ok start
  let _ ← decoded address.username
  let _ ← decoded (address.password.getD "")
  let path := Url.Address.pathText true address.path
  let _ ← decoded (String.ofList (path.toList.dropWhile (· == '/')))
  address.pairs.foldlM withParameter location

/-- The location that a text gives. -/
def read (url : String) : Except LocationProblem Location :=
  match Url.Address.parse url with
  | .error problem => .error (.address problem)
  | .ok address => ofAddress address

/-- Whether the host is known without asking anyone for its address. -/
def isKnown (location : Location) : Bool :=
  let host := location.host.toList.filter fun character => character ∉ ['[', ']']
  location.host == defaultHost || Url.Host.isInternetAddress host ||
    (Url.Host.versionFour? host).isSome

/-- Where the socket is to be found, if there is one. -/
def socketPath? (location : Location) : Option String :=
  location.socket.map fun directory => directory ++ "/.s.PGSQL." ++ toString location.port

end Location

end CatalogSync.Sql
