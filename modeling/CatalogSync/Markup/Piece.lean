/-
**The pieces of a document.**

* `Name` — a local name with an optional qualifier before a colon.
* `Piece` — a start tag, an end tag, a run of text, or a piece that says nothing about the elements:
  a comment, an instruction, a verbatim section.
* `Piece.scan?` — the pieces of a text, if it divides into such.

A document type declaration is no piece: documents that carry one are refused.
-/

import CatalogSync.Markup.Character

namespace CatalogSync.Markup

/-- A name with the qualifier before its colon, which is empty if there is none. -/
structure Name where
  qualifier : String
  name : String
  deriving DecidableEq, Repr, Inhabited

/-- An attribute as it is written, its references not resolved. -/
structure RawAttribute where
  name : Name
  text : List Char
  deriving Repr, Inhabited

/-- A piece of a document. -/
inductive Piece where
  | startTag (name : Name) (attributes : List RawAttribute) (isEmpty : Bool)
  | endTag (name : Name)
  | text (characters : List Char)
  /-- Text in which nothing is markup. -/
  | verbatim
  /-- A comment or an instruction. -/
  | aside
  deriving Repr, Inhabited

namespace Piece

/-- The characters from the first one that is no blank. -/
def skipSpaces (characters : List Char) : List Char := characters.dropWhile isSpace

/-- What follows a given beginning. -/
def after? (beginning : String) (characters : List Char) : Option (List Char) :=
  if beginning.toList.isPrefixOf characters then some (characters.drop beginning.length) else none

/-- The longest part of a name, without colons. -/
def namePart (characters : List Char) : List Char × List Char :=
  characters.span isNamePart

/-- Whether a part of a name starts like a name. -/
def startsLikeName (part : List Char) : Bool :=
  match part with
  | [] => false
  | first :: _ => isNameStart first

/-- A qualified name. A colon may stand before it without a qualifier. -/
def name? (characters : List Char) : Option (Name × List Char) :=
  let (first, rest) := namePart characters
  match rest with
  | ':' :: rest =>
    let (second, rest) := namePart rest
    let again := rest.head? == some ':'
    if !again && (first.isEmpty || startsLikeName first) && startsLikeName second then
      some (⟨String.ofList first, String.ofList second⟩, rest)
    else
      none
  | _ => if startsLikeName first then some (⟨"", String.ofList first⟩, rest) else none

/-- The characters up to a given ending, and what follows the ending. All of them have to be
allowed. -/
def upTo? (ending : String) : List Char → Option (List Char × List Char)
  | [] => none
  | character :: rest =>
    match after? ending (character :: rest) with
    | some following => some ([], following)
    | none =>
      if isAllowed character then
        (upTo? ending rest).map fun (found, following) => (character :: found, following)
      else
        none

/-- An equals sign with blanks around it. -/
def equals? (characters : List Char) : Option (List Char) :=
  (after? "=" (skipSpaces characters)).map skipSpaces

/-- An attribute: a name, an equals sign and a value in quotes, without a less-than sign. -/
def attribute? (characters : List Char) : Option (RawAttribute × List Char) := do
  let (name, rest) ← name? characters
  match ← equals? rest with
  | quote :: rest =>
    if quote = '"' ∨ quote = '\'' then do
      let (value, rest) ← upTo? quote.toString rest
      if value.contains '<' then none else some (⟨name, value⟩, rest)
    else
      none
  | [] => none

/-- The attributes and the end of a start tag, of which at most `most` are attributes. Each
attribute has a blank before it. -/
def tagRest? (name : Name) (attributes : List RawAttribute) (most : Nat) (characters : List Char) :
    Option (Piece × List Char) :=
  let spaced := characters.head?.any isSpace
  let characters := skipSpaces characters
  match after? "/>" characters with
  | some rest => some (.startTag name attributes.reverse true, rest)
  | none =>
    match after? ">" characters with
    | some rest => some (.startTag name attributes.reverse false, rest)
    | none =>
      match most with
      | 0 => none
      | most + 1 =>
        if spaced then
          match attribute? characters with
          | some (found, rest) => tagRest? name (found :: attributes) most rest
          | none => none
        else
          none

/-- A start tag after its opening bracket. -/
def startTag? (characters : List Char) : Option (Piece × List Char) := do
  let (name, rest) ← name? characters
  tagRest? name [] characters.length rest

/-- An end tag after its opening bracket and slash. -/
def endTag? (characters : List Char) : Option (Piece × List Char) := do
  let (name, rest) ← name? characters
  let rest ← after? ">" (skipSpaces rest)
  some (.endTag name, rest)

/-- Whether two dashes follow one another, or a dash comes last. -/
def hasLooseDashes : List Char → Bool
  | [] => false
  | ['-'] => true
  | '-' :: '-' :: _ => true
  | _ :: rest => hasLooseDashes rest

/-- A comment after its opening. Two dashes may stand only at its end. -/
def comment? (characters : List Char) : Option (Piece × List Char) := do
  let (content, rest) ← upTo? "-->" characters
  if hasLooseDashes content then none else some (.aside, rest)

/-- An instruction after its opening. -/
def instruction? (characters : List Char) : Option (Piece × List Char) :=
  let (target, rest) := characters.span fun character => isNamePart character || character == ':'
  match target with
  | [] => none
  | first :: _ =>
    if isNameStart first || first == ':' then
      (upTo? "?>" (skipSpaces rest)).map fun (_, rest) => (.aside, rest)
    else
      none

/-- Whether the mark that ends verbatim sections occurs in a text. -/
def hasSectionEnd : List Char → Bool
  | [] => false
  | ']' :: ']' :: '>' :: _ => true
  | _ :: rest => hasSectionEnd rest

/-- A run of text up to the next bracket. -/
def text? (characters : List Char) : Option (Piece × List Char) :=
  let (run, rest) := characters.span (· != '<')
  if run.all isAllowed && !hasSectionEnd run then some (.text run, rest) else none

/-- Whether a text starts with a declaration of the markup language, which may stand only at the
very start of a document. -/
def startsDeclaration (characters : List Char) : Bool :=
  (after? "<?xml " characters).isSome

/-- The first piece of a text that is not empty. -/
def first? (characters : List Char) : Option (Piece × List Char) :=
  match after? "<" characters with
  | none => text? characters
  | some rest =>
    if startsDeclaration characters then none
    else
      match after? "!--" rest with
      | some rest => comment? rest
      | none =>
        match after? "![CDATA[" rest with
        | some rest => (upTo? "]]>" rest).map fun (_, rest) => (.verbatim, rest)
        | none =>
          match after? "?" rest with
          | some rest => instruction? rest
          | none =>
            match after? "/" rest with
            | some rest => endTag? rest
            | none => startTag? rest

/-- The pieces of a text. Every piece takes at least one character off it. -/
def scan? (characters : List Char) : Option (List Piece) :=
  if characters.isEmpty then some []
  else
    match first? characters with
    | none => none
    | some (piece, rest) =>
      if rest.length < characters.length then (scan? rest).map (piece :: ·) else none
  termination_by characters.length

end Piece

end CatalogSync.Markup
