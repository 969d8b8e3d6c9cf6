/-
**Well-formed documents.**

* `Element` — the attributes of an element, each with the namespace of its name.
* `Document.root?` — the root element of a text that is a well-formed document with namespaces.

A document is one element, with comments, instructions and blanks around it, optionally after a byte
order mark and a declaration. Its tags nest, every qualifier is bound, no element has one attribute
twice, and every reference can be resolved.
-/

import CatalogSync.Markup.Piece

namespace CatalogSync.Markup

/-- An attribute with the namespace of its name, none if the name has no qualifier. -/
structure Attribute where
  space : Option String
  name : String
  value : String
  deriving DecidableEq, Repr, Inhabited

/-- An element. -/
structure Element where
  attributes : List Attribute
  deriving DecidableEq, Repr, Inhabited

/-- The value of the attribute with a name that has no qualifier. -/
def Element.attribute? (element : Element) (name : String) : Option String :=
  (element.attributes.find? fun candidate =>
    candidate.space.isNone && candidate.name == name).map Attribute.value

/-- The namespaces that qualifiers are bound to, the innermost binding first. The empty qualifier
stands for names without one. -/
abbrev Scope := List (String × String)

namespace Document

/-- The namespace of the names that the markup language reserves. -/
def reservedSpace : String := "http://www.w3.org/XML/1998/namespace"

/-- The namespace of declarations of namespaces. -/
def declarationSpace : String := "http://www.w3.org/2000/xmlns/"

/-- What the attributes of a tag declare and say. -/
structure Declared where
  /-- The bindings that the tag itself makes. -/
  own : Scope
  /-- The attributes that bind nothing. -/
  others : List (Name × String)

/-- Takes in one attribute of a tag. -/
def declare? (declared : Declared) (raw : RawAttribute) : Option Declared := do
  let value := String.ofList (← expandAttribute raw.text)
  if raw.name.qualifier = "xmlns" then
    let bound := raw.name.name
    if value = declarationSpace then none
    else if (bound = "xml") ≠ (value = reservedSpace) then none
    else if declared.own.any fun binding => binding.1 == bound then none
    else if value = reservedSpace then some declared
    else some { declared with own := declared.own ++ [(bound, value)] }
  else if raw.name.name = "xmlns" then
    if value = declarationSpace ∨ value = reservedSpace then none
    else some { declared with own := declared.own ++ [("", value)] }
  else
    some { declared with others := declared.others ++ [(raw.name, value)] }

/-- The namespace that a qualifier is bound to. -/
def bound? (scope : Scope) (qualifier : String) : Option String :=
  (scope.find? fun binding => binding.1 == qualifier).map Prod.snd

/-- An attribute with the namespace of its name. -/
def qualify? (scope : Scope) (named : Name × String) : Option Attribute :=
  let (name, value) := named
  if name.qualifier = "" then some ⟨none, name.name, value⟩
  else if name.qualifier = "xml" then some ⟨some reservedSpace, name.name, value⟩
  else (bound? scope name.qualifier).map fun space => ⟨some space, name.name, value⟩

/-- Whether no two attributes have the same name in the same namespace. -/
def areDistinct : List Attribute → Bool
  | [] => true
  | first :: rest =>
    (rest.all fun other => other.space != first.space || other.name != first.name) &&
      areDistinct rest

/-- The element of a start tag, and the bindings that hold inside of it. -/
def element? (outer : Scope) (name : Name) (attributes : List RawAttribute) :
    Option (Element × Scope) := do
  let declared ← attributes.foldlM declare? ⟨[], []⟩
  let scope := declared.own ++ outer
  let attributes ← declared.others.mapM (qualify? scope)
  let qualified := name.qualifier = "" ∨ (bound? scope name.qualifier).isSome
  if name.qualifier ≠ "xmlns" ∧ qualified ∧ areDistinct attributes then
    some (⟨attributes⟩, scope)
  else
    none

/-- How far a document has been read: the root element once it has started, and the elements that
are open, the innermost first, with the bindings inside of them. -/
structure Progress where
  root : Option Element
  opened : List (Name × Scope)

/-- Reads on by one piece. -/
def step? (progress : Progress) (piece : Piece) : Option Progress :=
  match piece, progress.opened with
  | .aside, _ => some progress
  | .text characters, [] => if characters.all isSpace then some progress else none
  | .text characters, _ :: _ => (expandText characters).map fun _ => progress
  | .verbatim, [] => none
  | .verbatim, _ :: _ => some progress
  | .endTag _, [] => none
  | .endTag name, (opened, _) :: outer =>
    if name = opened then some { progress with opened := outer } else none
  | .startTag name attributes isEmpty, opened =>
    if opened.isEmpty && progress.root.isSome then none
    else do
      let (element, scope) ← element? ((opened.head?.map Prod.snd).getD []) name attributes
      some
        { root := progress.root.or (some element)
          opened := if isEmpty then opened else (name, scope) :: opened }

/-- What follows an attribute of a declaration with a given beginning, if it stands there. -/
def declarationPart (beginning : String) (characters : List Char) : Option (List Char) := do
  if (Piece.after? beginning characters).isSome then do
    let (_, rest) ← Piece.attribute? characters
    let spaced := rest.head?.any isSpace
    if spaced || rest.isEmpty || (Piece.after? "?>" rest).isSome then
      some (Piece.skipSpaces rest)
    else
      none
  else
    some characters

/-- What follows the declaration of the markup language, if there is one. -/
def afterDeclaration? (characters : List Char) : Option (List Char) :=
  if Piece.startsDeclaration characters then do
    let rest := Piece.skipSpaces (characters.drop 5)
    if (Piece.after? "version" rest).isNone then none
    else do
      let rest ← declarationPart "version" rest
      let rest ← declarationPart "encoding" rest
      let rest ← declarationPart "standalone" rest
      Piece.after? "?>" (Piece.skipSpaces rest)
  else
    some characters

/-- What follows the byte order mark, if there is one. -/
def afterMark (characters : List Char) : List Char :=
  match characters with
  | '\uFEFF' :: rest => rest
  | _ => characters

/-- The root element of a well-formed document. -/
def root? (text : String) : Option Element := do
  let body ← afterDeclaration? (afterMark text.toList)
  let pieces ← Piece.scan? body
  let progress ← pieces.foldlM step? ⟨none, []⟩
  if progress.opened.isEmpty then progress.root else none

end Document

end CatalogSync.Markup
