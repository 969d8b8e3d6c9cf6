/-
**Assignments of variables.**

* `Assignment` — a variable and its value, which may refer to other variables.
* `Assignment.read?` — the assignment that a line makes: a name, an equals sign, a value, possibly
  after the word `export` and possibly with a comment behind it. Blank lines and comments make none.
* `Assignment.value` — the value, given the variables that it refers to.

In a value single quotes keep everything as it is, double quotes keep blanks, a backslash keeps the
next character, and a dollar sign refers to a variable, whose name may stand in braces.
-/

import CatalogSync.Text.Alphanumeric
import CatalogSync.Text.Blank

namespace CatalogSync

/-- A piece of a value. -/
inductive ValuePart where
  | character (character : Char)
  | variableNamed (name : String)
  deriving DecidableEq, Repr

/-- A variable and its value. -/
structure Assignment where
  name : String
  parts : List ValuePart
  deriving DecidableEq, Repr

namespace Assignment

/-! ### Values -/

/-- Where a reader of values stands. Outside of single quotes it may stand in double quotes. -/
inductive Place where
  | plain (quoted : Bool)
  | singleQuotes
  | afterBackslash (quoted : Bool)
  /-- In the name of a variable, whose characters so far are given, the last one first. -/
  | nameAfterDollar (quoted : Bool) (reversed : List Char)
  | nameInBraces (quoted : Bool) (reversed : List Char)
  /-- After the value, where only blanks and a comment may follow. -/
  | afterValue
  | comment
  deriving DecidableEq, Repr

/-- The reference to a variable whose name is given with its last character first. -/
def reference (reversed : List Char) : ValuePart :=
  .variableNamed (String.ofList reversed.reverse)

/-- The character that a backslash in front of a character stands for. -/
def unescaped? (character : Char) : Option Char :=
  if character = 'n' then some '\n'
  else if character ∈ ['\\', '\'', '"', '$', ' '] then some character
  else none

/-- Where a reader stands after a character outside of names and single quotes. -/
def readPlain (quoted : Bool) (character : Char) : Place × List ValuePart :=
  if character = '$' then (.nameAfterDollar quoted [], [])
  else if character = '"' then (.plain !quoted, [])
  else if character = '\\' then (.afterBackslash quoted, [])
  else if quoted then (.plain quoted, [.character character])
  else if character = '\'' then (.singleQuotes, [])
  else if character = ' ' ∨ character = '\t' then (.afterValue, [])
  else (.plain quoted, [.character character])

/-- Where a reader stands after a further character, and what it has found. A name without braces
ends before the first character that is neither letter nor digit, and that character is kept as it
is. -/
def advance (place : Place) (character : Char) : Option (Place × List ValuePart) :=
  match place with
  | .plain quoted => some (readPlain quoted character)
  | .singleQuotes =>
    if character = '\'' then some (.plain false, [])
    else some (.singleQuotes, [.character character])
  | .afterBackslash quoted =>
    (unescaped? character).map fun kept => (.plain quoted, [.character kept])
  | .nameAfterDollar quoted reversed =>
    if Text.isAlphanumeric character then some (.nameAfterDollar quoted (character :: reversed), [])
    else if character = '{' ∧ reversed.isEmpty then some (.nameInBraces quoted [], [])
    else if character = '$' then some (.nameAfterDollar quoted [], [reference reversed])
    else some (.plain quoted, [reference reversed, .character character])
  | .nameInBraces quoted reversed =>
    if character = '}' then some (.plain quoted, [reference reversed])
    else some (.nameInBraces quoted (character :: reversed), [])
  | .afterValue =>
    if character = ' ' ∨ character = '\t' then some (.afterValue, [])
    else if character = '#' then some (.comment, [])
    else none
  | .comment => some (.comment, [])

/-- What a reader finds at the end of a line, unless quotes or braces are still open there. -/
def atEnd? : Place → Option (List ValuePart)
  | .singleQuotes | .nameInBraces .. | .plain true | .afterBackslash true
  | .nameAfterDollar true _ => none
  | .nameAfterDollar false reversed => some [reference reversed]
  | .plain false | .afterBackslash false | .afterValue | .comment => some []

/-- The pieces of a value from a place on. -/
def partsFrom? : Place → List Char → Option (List ValuePart)
  | place, [] => atEnd? place
  | place, character :: rest => do
    let (next, found) ← advance place character
    let others ← partsFrom? next rest
    some (found ++ others)

/-- The text of a piece. -/
def partText (lookup : String → Option String) : ValuePart → String
  | .character character => character.toString
  | .variableNamed name => (lookup name).getD ""

/-- The value, given the variables. One that is not set counts as empty. -/
def value (assignment : Assignment) (lookup : String → Option String) : String :=
  String.join (assignment.parts.map (partText lookup))

/-- The names of the variables that the value refers to. -/
def mentioned (assignment : Assignment) : List String :=
  assignment.parts.filterMap fun
    | .character _ => none
    | .variableNamed name => some name

/-! ### Lines -/

/-- The characters after the blanks at the start. -/
def skipBlanks (characters : List Char) : List Char := characters.dropWhile Text.isBlank

/-- Whether a character may start a name. -/
def startsName (character : Char) : Bool := character.isAlpha || character == '_'

/-- Whether a character may stand in a name. -/
def continuesName (character : Char) : Bool :=
  character.isAlphanum || character == '_' || character == '.'

/-- A name and the characters behind it and the blanks that follow. -/
def name? (characters : List Char) : Option (String × List Char) :=
  match characters with
  | first :: _ =>
    if startsName first then
      some (String.ofList (characters.takeWhile continuesName),
        skipBlanks (characters.dropWhile continuesName))
    else
      none
  | [] => none

/-- The assignment of what stands behind an equals sign. -/
def assigned? (name : String) (characters : List Char) : Option Assignment :=
  match skipBlanks characters with
  | [] | '#' :: _ => some ⟨name, []⟩
  | given => (partsFrom? (.plain false) given).map fun parts => ⟨name, parts⟩

/-- The assignment of a line without blanks around it. -/
def statement? (characters : List Char) : Option Assignment := do
  let (name, rest) ← name? characters
  match rest with
  | '=' :: given => assigned? name given
  | _ =>
    if name = "export" then
      match ← name? rest with
      | (exported, '=' :: given) => assigned? exported given
      | _ => none
    else
      none

/-- The assignment that a line makes, if it makes one. A line that is neither an assignment nor
blank nor a comment cannot be read. -/
def read? (line : String) : Option (Option Assignment) :=
  match (Text.trim line).toList with
  | [] | '#' :: _ => some none
  | characters => (statement? characters).map some

end Assignment

end CatalogSync
