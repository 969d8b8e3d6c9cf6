/-
**Hosts.**

* `Host` — a name, or a numeric address of the fourth or the sixth version.
* `Host.ofWeb` — the host of a web address: percent signs are resolved, a domain name is written
  within ASCII, and a name that ends in a number has to be an address.
* `Host.ofOther` — the host of any other address, which is kept as it is written.
* `Host.text` — the written form. In an address of the sixth version the longest run of zero groups
  is left out.
-/

import CatalogSync.Text.Digits
import CatalogSync.Url.Domain
import CatalogSync.Url.Percent

namespace CatalogSync.Url

/-- Why a text is no address. -/
inductive Problem where
  | relative
  | emptyHost
  | invalidHost
  | invalidCharacter
  | invalidVersionFour
  | invalidVersionSix
  | invalidPort
  deriving DecidableEq, Repr

/-- The complaint about a problem. -/
def Problem.message : Problem → String
  | .relative => "relative URL without a base"
  | .emptyHost => "empty host"
  | .invalidHost => "invalid international domain name"
  | .invalidCharacter => "invalid domain character"
  | .invalidVersionFour => "invalid IPv4 address"
  | .invalidVersionSix => "invalid IPv6 address"
  | .invalidPort => "invalid port number"

/-- A host. -/
inductive Host where
  | name (text : String)
  | versionFour (address : Nat)
  | versionSix (groups : List Nat)
  deriving DecidableEq, Repr

/-- The parts of a text between separators. -/
def splitAt (separator : Char) (characters : List Char) : List (List Char) :=
  characters.splitOn separator

namespace Host

/-- A part of an address of the fourth version, in one of three bases. -/
def part? (characters : List Char) : Option Nat :=
  match characters with
  | [] => none
  | '0' :: 'x' :: digits => Text.digits? 16 digits
  | '0' :: 'X' :: digits => Text.digits? 16 digits
  | '0' :: first :: digits => Text.digits? 8 (first :: digits)
  | digits => Text.digits? 10 digits

/-- The parts of a name between points, without an empty one at the end. -/
def parts (name : List Char) : List (List Char) :=
  let parts := splitAt '.' name
  if 1 < parts.length ∧ parts.getLast? = some [] then parts.dropLast else parts

/-- Whether the last part of a name is a number. -/
def endsInNumber (name : List Char) : Bool :=
  match (parts name).getLast? with
  | none => false
  | some last => (!last.isEmpty && last.all Char.isDigit) || (part? last).isSome

/-- The number that the parts of an address of the fourth version make up, of which the last one
fills what the others leave. -/
def versionFour? (name : List Char) : Option Nat := do
  let numbers ← (parts name).mapM part?
  let last ← numbers.getLast?
  let others := numbers.dropLast
  let room := Nat.pow 256 (5 - numbers.length)
  if numbers.length ≤ 4 ∧ others.all (· ≤ 255) ∧ last < room then
    some (others.foldl (fun value number => value * 256 + number) 0 * room + last)
  else
    none

/-- The four numbers at the end of an address of the sixth version, as two groups. -/
def dotted? (characters : List Char) : Option (List Nat) := do
  let numbers ← (splitAt '.' characters).mapM fun part =>
    if part.isEmpty || (part.head? == some '0' && part.length != 1) then none
    else (Text.digits? 10 part).filter (· ≤ 255)
  match numbers with
  | [first, second, third, fourth] => some [first * 256 + second, third * 256 + fourth]
  | _ => none

/-- A group of an address of the sixth version, or its last two. -/
def group? (isLast : Bool) (characters : List Char) : Option (List Nat) :=
  if isLast && characters.contains '.' then dotted? characters
  else if characters.isEmpty || 4 < characters.length then none
  else (Text.digits? 16 characters).map fun value => [value]

/-- Groups with colons between them; none of them in an empty text. -/
def groups? (hasEnd : Bool) (characters : List Char) : Option (List Nat) :=
  if characters.isEmpty then some []
  else
    let texts := splitAt ':' characters
    (texts.zipIdx.mapM fun (text, index) =>
      group? (hasEnd && index + 1 == texts.length) text).map List.flatten

/-- The text before the first pair of colons and the text after it. -/
def aroundColons? : List Char → Option (List Char × List Char)
  | [] => none
  | ':' :: ':' :: rest => some ([], rest)
  | character :: rest =>
    (aroundColons? rest).map fun (before, after) => (character :: before, after)

/-- The eight groups of an address of the sixth version, of which a pair of colons leaves out those
that are zero. -/
def versionSix? (characters : List Char) : Option (List Nat) :=
  match aroundColons? characters with
  | none => (groups? true characters).filter fun groups => groups.length == 8
  | some (before, after) => do
    let first ← groups? false before
    let second ← groups? true after
    if first.length + second.length ≤ 7 then
      some (first ++ List.replicate (8 - first.length - second.length) 0 ++ second)
    else
      none

/-- Whether a text is a numeric address of either version in its plain form. -/
def isInternetAddress (characters : List Char) : Bool :=
  (dotted? characters).isSome || (versionSix? characters).isSome

/-- The characters that may not stand in the host of any other address. -/
def isForbiddenElsewhere (character : Char) : Bool :=
  character ∈ ['\x00', '\t', '\n', '\r', ' ', '#', '/', ':', '<', '>', '?', '@', '[', '\\', ']',
    '^', '|']

/-- The address between brackets. -/
def bracketed (characters : List Char) : Except Problem Host :=
  if characters.getLast? = some ']' then
    match versionSix? characters.dropLast with
    | some groups => .ok (.versionSix groups)
    | none => .error .invalidVersionSix
  else
    .error .invalidVersionSix

/-- The host of a web address. -/
def ofWeb (characters : List Char) : Except Problem Host :=
  match characters with
  | '[' :: rest => bracketed rest
  | _ =>
    match (Percent.decode? characters).bind Domain.ascii? with
    | none => .error .invalidHost
    | some ascii =>
      if ascii.isEmpty then .error .emptyHost
      else if endsInNumber ascii then
        match versionFour? ascii with
        | some address => .ok (.versionFour address)
        | none => .error .invalidVersionFour
      else
        .ok (.name (String.ofList ascii))

/-- The host of any other address. -/
def ofOther (characters : List Char) : Except Problem Host :=
  match characters with
  | '[' :: rest => bracketed rest
  | _ =>
    if characters.any isForbiddenElsewhere then .error .invalidCharacter
    else .ok (.name (String.ofList (Percent.encode Percent.isControl characters)))

/-- The number of zeros at the start of a list. -/
def leadingZeros (groups : List Nat) : Nat := (groups.takeWhile (· == 0)).length

/-- The start and the length of the longest run of zeros, the first of several; a single zero counts
as none. -/
def longestZeros (groups : List Nat) : Nat × Nat :=
  ((List.range groups.length).map fun start => (start, leadingZeros (groups.drop start))).foldl
    (fun best run => if best.2 < run.2 ∧ 1 < run.2 then run else best) (0, 0)

/-- Groups in hexadecimal digits with colons between them. -/
def groupsText (groups : List Nat) : List Char :=
  [':'].intercalate (groups.map (Nat.toDigits 16))

/-- The written form. -/
def text : Host → String
  | .name text => text
  | .versionFour address =>
    ".".intercalate ([16777216, 65536, 256, 1].map fun unit => toString (address / unit % 256))
  | .versionSix groups =>
    let (start, length) := longestZeros groups
    let written :=
      if length = 0 then groupsText groups
      else
        groupsText (groups.take start) ++ [':', ':'] ++ groupsText (groups.drop (start + length))
    "[" ++ String.ofList written ++ "]"

end Host

end CatalogSync.Url
