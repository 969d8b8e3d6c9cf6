/-
**Addresses.**

* `Address` — the parts of an absolute address.
* `Address.parse` — the parts of a text, in normal form: scheme and host in small letters, the port
  left out where it is the usual one, dots in the path resolved, and whatever may not stand as it is
  written by its bytes.
* `Address.text` — the written form.
* `Address.account`, `Address.isSendable` — the account in the address, and whether a request can
  carry the rest.
* `Address.pairs`, `Address.withPairs` — the names and values of the query, and the address with
  others added to them.
-/

import CatalogSync.Text.Blank
import CatalogSync.Url.Host

namespace CatalogSync.Url

/-- The path of an address: segments, or a text that is not divided. -/
inductive Path where
  | segments (segments : List String)
  | undivided (text : String)
  deriving DecidableEq, Repr

/-- The parts of an absolute address. -/
structure Address where
  scheme : String
  username : String
  password : Option String
  /-- The host, possibly with an empty name; none if the address does not speak of hosts. -/
  host : Option Host
  port : Option Nat
  path : Path
  query : Option String
  fragment : Option String
  deriving DecidableEq, Repr

namespace Address

/-! ### Reading -/

/-- The schemes of the web with their usual ports. -/
def webSchemes : List (String × Nat) :=
  [("http", 80), ("https", 443), ("ws", 80), ("wss", 443), ("ftp", 21)]

/-- Whether addresses of a scheme are web addresses. -/
def isWebScheme (scheme : String) : Bool :=
  webSchemes.any fun known => known.1 == scheme

/-- Whether a character separates segments of a path. -/
def isSlash (isWeb : Bool) (character : Char) : Bool :=
  character == '/' || (isWeb && character == '\\')

/-- Whether a character ends the host of an address and what stands before it. -/
def endsAuthority (isWeb : Bool) (character : Char) : Bool :=
  isSlash isWeb character || character == '?' || character == '#'

/-- Whether a character is a control or a space, which do not count at the ends of a text. -/
def isMargin (character : Char) : Bool := character.toNat ≤ 0x20

/-- The characters that count: none of the controls and spaces at the ends, and no tabs or line ends
anywhere. -/
def significant (text : String) : List Char :=
  (Text.trimWhile isMargin text.toList).filter fun character => character ∉ ['\t', '\n', '\r']

/-- The scheme in small letters, and what follows its colon. -/
def scheme? (characters : List Char) : Option (String × List Char) :=
  let isPart (character : Char) := character.isAlphanum || character ∈ ['+', '-', '.']
  let (scheme, rest) := characters.span isPart
  match scheme, rest with
  | first :: _, ':' :: rest =>
    if first.isAlpha then some (String.ofList (scheme.map Char.toLower), rest) else none
  | _, _ => none

/-- What stands before the last at sign, if there is one, and what stands after it. -/
def account? (authority : List Char) : Option (List Char) × List Char :=
  if authority.contains '@' then
    let host := authority.reverse.takeWhile (· != '@')
    let before := authority.reverse.dropWhile (· != '@')
    (some before.tail.reverse, host.reverse)
  else
    (none, authority)

/-- A user name and a password that is not empty. -/
def credentials (account : List Char) : String × Option String :=
  let encode (characters : List Char) :=
    String.ofList (Percent.encode Percent.inAccount characters)
  match account.span (· != ':') with
  | (user, _ :: first :: rest) => (encode user, some (encode (first :: rest)))
  | (user, _) => (encode user, none)

/-- The host and the text after its colon, if there is one; a colon between brackets does not
count. -/
def hostAndPort (authority : List Char) : List Char × Option (List Char) :=
  let bracket := authority.takeWhile (· != ']')
  let (host, rest) :=
    if authority.head? = some '[' then
      let (tail, rest) := (authority.drop bracket.length).span (· != ':')
      (bracket ++ tail, rest)
    else
      authority.span (· != ':')
  match rest with
  | [] => (host, none)
  | _ :: port => (host, some port)

/-- A port and what follows it. A backslash ends a port of any address. -/
def splitPort (characters : List Char) : List Char × List Char := characters.span (· != '\\')

/-- A port: decimal digits below 2^16, or nothing. The usual port of the scheme counts as nothing.
-/
def portOf (scheme : String) (digits : List Char) : Except Problem (Option Nat) :=
  if digits.isEmpty then .ok none
  else
    match (if digits.all Char.isDigit then Text.digits? 10 digits else none) with
    | none => .error .invalidPort
    | some number =>
      if 65535 < number then .error .invalidPort
      else if webSchemes.contains (scheme, number) then .ok none
      else .ok (some number)

/-- Whether a segment means the level that it is in. -/
def isSingleDot (segment : List Char) : Bool :=
  let segment := segment.map Char.toLower
  segment == ['.'] || segment == ['%', '2', 'e']

/-- Whether a segment means the level above. -/
def isDoubleDot (segment : List Char) : Bool :=
  let dot : List Char := ['.']
  let code : List Char := ['%', '2', 'e']
  let segment := segment.map Char.toLower
  segment ∈ [dot ++ dot, dot ++ code, code ++ dot, code ++ code]

/-- Whether a segment is the letter of a drive. -/
def isDrive : List Char → Bool
  | [letter, mark] => letter.isAlpha && (mark == ':' || mark == '|')
  | _ => false

/-- The level above the last of some segments, given in reverse. There is none above a drive. -/
def levelAbove (segments : List String) : List String :=
  if segments.head?.any fun last => isDrive last.toList then segments else segments.tail

/-- The segments of a path with its dots resolved, given those before them in reverse. -/
def resolve (before : List String) : List (List Char) → List String
  | [] => before.reverse
  | segment :: rest =>
    let encoded := String.ofList (Percent.encode Percent.inPath segment)
    if isDoubleDot encoded.toList then
      resolve (if rest.isEmpty then "" :: levelAbove before else levelAbove before) rest
    else if isSingleDot encoded.toList then
      resolve (if rest.isEmpty then "" :: before else before) rest
    else
      resolve (encoded :: before) rest

/-- The path after the host: it has at least one segment in a web address. -/
def pathOf (isWeb : Bool) (characters : List Char) : Path :=
  let plain := characters.map fun character => if isSlash isWeb character then '/' else character
  match plain with
  | [] => .segments (if isWeb then [""] else [])
  | '/' :: rest => .segments (resolve [] (splitAt '/' rest))
  | _ => .segments (resolve [] (splitAt '/' plain))

/-- Path, query and fragment of a text. -/
def tail (characters : List Char) : List Char × Option (List Char) × Option (List Char) :=
  let (front, fragment) := characters.span (· != '#')
  let (path, query) := front.span (· != '?')
  let after (part : List Char) : Option (List Char) := if part.isEmpty then none else some part.tail
  (path, after query, after fragment)

/-- The address with query and fragment in normal form. -/
def withTail (address : Address) (isWeb : Bool) (query fragment : Option (List Char)) : Address :=
  { address with
    query := query.map fun text => String.ofList (Percent.encode (Percent.inQuery isWeb) text)
    fragment := fragment.map fun text => String.ofList (Percent.encode Percent.inFragment text) }

/-- What an address says about its host: the account there, the name and the port. -/
structure Authority where
  username : String
  password : Option String
  host : Host
  port : Option Nat

/-- What a text says about its host, given what follows the two slashes. -/
def authority (scheme : String) (characters : List Char) : Except Problem Authority := do
  let isWeb := isWebScheme scheme
  let (authority, rest) := characters.span fun character => !endsAuthority isWeb character
  let (account, place) := account? authority
  let (username, password) := credentials (account.getD [])
  let (hostText, afterColon) := hostAndPort place
  let isNeeded := isWeb || username != "" || password.isSome || afterColon.isSome ||
    (account == some [] && place.isEmpty && !rest.isEmpty)
  if hostText.isEmpty && isNeeded then throw .emptyHost
  let host ←
    if hostText.isEmpty then .ok (.name "")
    else if isWeb then Host.ofWeb hostText
    else Host.ofOther hostText
  let port ← portOf scheme (splitPort (afterColon.getD [])).1
  return ⟨username, password, host, port⟩

/-- What follows the host and the port. -/
def afterAuthority (isWeb : Bool) (characters : List Char) : List Char :=
  let (authority, rest) := characters.span fun character => !endsAuthority isWeb character
  let afterColon := (hostAndPort (account? authority).2).2
  (splitPort (afterColon.getD [])).2 ++ rest

/-- The address of a text that names a host, given what follows the two slashes. -/
def withAuthority (scheme : String) (characters : List Char) : Except Problem Address := do
  let isWeb := isWebScheme scheme
  let ⟨username, password, host, port⟩ ← authority scheme characters
  let (pathText, query, fragment) := tail (afterAuthority isWeb characters)
  let address : Address :=
    ⟨scheme, username, password, some host, port, pathOf isWeb pathText, none, none⟩
  return address.withTail isWeb query fragment

/-- The host of a local file and the segments of its path, given the path with what stands before
it. This host itself counts as none, and where a host is left out its slash counts as a segment. -/
def localPlace : List Char → Except Problem (Host × List (List Char))
  | '/' :: '/' :: rest =>
    let (hostText, path) := rest.span (· != '/')
    if isDrive hostText then .ok (.name "", splitAt '/' rest)
    else if hostText.isEmpty then .ok (.name "", splitAt '/' path)
    else
      (Host.ofWeb hostText).map fun host =>
        if host = .name "localhost" then (.name "", splitAt '/' path)
        else (host, splitAt '/' path.tail)
  | '/' :: path => .ok (.name "", splitAt '/' path)
  | path => .ok (.name "", splitAt '/' path)

/-- The host and the segments of a local file, of which a drive at the start is written with a
colon. A drive has no host. -/
def onDrive (host : Host) : List String → Host × List String
  | [] => (host, [])
  | first :: rest =>
    if isDrive first.toList then
      (.name "", String.ofList (first.toList.take 1 ++ [':']) :: rest)
    else
      (host, first :: rest)

/-- The address of a local file, given what follows the colon. No empty segment stands at the start
of its path. -/
def ofLocalFile (characters : List Char) : Except Problem Address := do
  let (pathText, query, fragment) := tail characters
  let plain := pathText.map fun character => if isSlash true character then '/' else character
  let (host, segments) ← localPlace plain
  let (host, resolved) := onDrive host (resolve [] segments)
  let filled := resolved.dropWhile (· == "")
  let path := Path.segments (if filled.isEmpty then [""] else filled)
  let address : Address := ⟨"file", "", none, some host, none, path, none, none⟩
  return address.withTail true query fragment

/-- The address of a text that names no host, given what follows the colon. -/
def withoutAuthority (scheme : String) (characters : List Char) : Address :=
  let (pathText, query, fragment) := tail characters
  let path :=
    match pathText with
    | '/' :: _ => pathOf false pathText
    | _ => .undivided (String.ofList (Percent.encode Percent.isControl pathText))
  withTail ⟨scheme, "", none, none, none, path, none, none⟩ false query fragment

/-- The address that a text writes. -/
def parse (text : String) : Except Problem Address :=
  match scheme? (significant text) with
  | none => .error .relative
  | some (scheme, rest) =>
    if scheme = "file" then ofLocalFile rest
    else if isWebScheme scheme then withAuthority scheme (rest.dropWhile (isSlash true))
    else
      match rest with
      | '/' :: '/' :: rest => withAuthority scheme rest
      | rest => .ok (withoutAuthority scheme rest)

/-! ### Writing -/

/-- The account before a host. -/
def accountText (address : Address) : String :=
  if address.username = "" ∧ address.password = none then ""
  else address.username ++ ((address.password.map (":" ++ ·)).getD "") ++ "@"

/-- The written form of a path. -/
def pathText (hasHost : Bool) : Path → String
  | .undivided text => text
  | .segments segments =>
    let written := String.join (segments.map ("/" ++ ·))
    if !hasHost && 1 < segments.length && segments.head? == some "" then "/." ++ written
    else written

/-- The written form without the fragment, as it is sent. -/
def sentText (address : Address) : String :=
  let authority :=
    match address.host with
    | none => ""
    | some host =>
      "//" ++ address.accountText ++ host.text ++
        ((address.port.map fun port => ":" ++ toString port).getD "")
  address.scheme ++ ":" ++ authority ++ pathText address.host.isSome address.path ++
    ((address.query.map ("?" ++ ·)).getD "")

/-- The written form. -/
def text (address : Address) : String :=
  address.sentText ++ ((address.fragment.map ("#" ++ ·)).getD "")

/-! ### Using -/

/-- Whether the address names a host. -/
def hasHost (address : Address) : Bool :=
  match address.host with
  | none => false
  | some host => host != .name ""

/-- Whether the address can be asked over the web. -/
def isHttp (address : Address) : Bool :=
  address.scheme == "http" || address.scheme == "https"

/-- The characters of a host that no request can carry. -/
def unsendable : List Char := ['"', '\x60', '\x7b', '\x7d']

/-- The number of characters that the address of a request may have. -/
def longestSent : Nat := 65534

/-- Whether a request can carry the address. -/
def isSendable (address : Address) : Bool :=
  let host := (address.host.map Host.text).getD ""
  host.toList.all (· ∉ unsendable) && address.text.length ≤ longestSent

/-- The user name and the password of the account, percent signs resolved. A password that is not
well-formed counts as none, a user name that is not well-formed makes no account, and neither do an
empty one and no password. -/
def account (address : Address) : Option (String × Option String) := do
  let user ← Percent.decode? address.username.toList
  let password := address.password.bind fun password => Percent.decode? password.toList
  if user.isEmpty && password.isNone then none
  else some (String.ofList user, password.map String.ofList)

/-- The address without its account. -/
def withoutAccount (address : Address) : Address :=
  { address with username := "", password := none }

/-- A name and a value as a query writes them. -/
def pairText (pair : String × String) : String :=
  Percent.formEncode pair.1 ++ "=" ++ Percent.formEncode pair.2

/-- The names and values of the query. What has no equals sign is a name with an empty value. -/
def pairs (address : Address) : List (String × String) :=
  ((splitAt '&' (address.query.getD "").toList).filter (!·.isEmpty)).map fun part =>
    let (name, value) := part.span (· != '=')
    (Percent.formDecode name, Percent.formDecode value.tail)

/-- The address with names and values added to its query. -/
def withPairs (address : Address) (pairs : List (String × String)) : Address :=
  if pairs.isEmpty then address
  else
    let added := "&".intercalate (pairs.map pairText)
    let query :=
      match address.query with
      | none => added
      | some "" => added
      | some query => query ++ "&" ++ added
    { address with query := some query }

end Address

end CatalogSync.Url
