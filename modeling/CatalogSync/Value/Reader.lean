/-
**Reading values.**

* `Value.read?` — the value that a text writes, if the text writes exactly one.

The reader is a machine that takes one token at a time and holds the open lists and objects on a
stack. An object keeps its fields as they are written, repeated names included; `Value.canonical`
merges them. A value may be at most `deepest` levels deep.
-/

import CatalogSync.Value.Token

namespace CatalogSync.Value

namespace Reader

/-- A list or an object that is still open. What it holds already is in reverse. -/
inductive Frame where
  | list (items : List Value)
  | object (fields : List (String × Value)) (name : String)
  deriving Inhabited

/-- What may come next. -/
inductive Expecting where
  /-- A value. -/
  | value
  /-- The first item of a list, or the end of the list. -/
  | item
  /-- The first name of an object, or the end of the object. -/
  | firstName
  /-- A further name. -/
  | name
  /-- The colon after a name. -/
  | colon
  /-- A comma, or the end of the innermost list or object. -/
  | more
  /-- Nothing. -/
  | done (value : Value)
  deriving Inhabited

/-- The number of lists and objects that may be open at once. -/
def deepest : Nat := 127

/-- What comes after a complete value. -/
def complete (stack : List Frame) (value : Value) : List Frame × Expecting :=
  match stack with
  | [] => ([], .done value)
  | .list items :: outer => (.list (value :: items) :: outer, .more)
  | .object fields name :: outer => (.object ((name, value) :: fields) name :: outer, .more)

/-- The start of a value. -/
def start? (stack : List Frame) (token : Token) : Option (List Frame × Expecting) :=
  match token with
  | .scalar value => some (complete stack value)
  | .openList => if stack.length < deepest then some (.list [] :: stack, .item) else none
  | .openObject =>
    if stack.length < deepest then some (.object [] "" :: stack, .firstName) else none
  | _ => none

/-- A name of the innermost object. -/
def named? (stack : List Frame) (token : Token) : Option (List Frame × Expecting) :=
  match stack, token with
  | .object fields _ :: outer, .scalar (.text name) => some (.object fields name :: outer, .colon)
  | _, _ => none

/-- What the reader does with one token. -/
def step? (stack : List Frame) (expecting : Expecting) (token : Token) :
    Option (List Frame × Expecting) :=
  match expecting with
  | .value => start? stack token
  | .item =>
    match stack, token with
    | .list items :: outer, .closeList => some (complete outer (.list items.reverse))
    | _, _ => start? stack token
  | .firstName =>
    match stack, token with
    | .object fields _ :: outer, .closeObject => some (complete outer (.object fields.reverse))
    | _, _ => named? stack token
  | .name => named? stack token
  | .colon =>
    match token with
    | .colon => some (stack, .value)
    | _ => none
  | .more =>
    match stack, token with
    | .list _ :: _, .comma => some (stack, .value)
    | .list items :: outer, .closeList => some (complete outer (.list items.reverse))
    | .object .. :: _, .comma => some (stack, .name)
    | .object fields _ :: outer, .closeObject => some (complete outer (.object fields.reverse))
    | _, _ => none
  | .done _ => none

/-- The value that the tokens write, given what came before them. -/
def readFrom? (stack : List Frame) (expecting : Expecting) : List Token → Option Value
  | [] =>
    match expecting with
    | .done value => some value
    | _ => none
  | token :: rest =>
    match step? stack expecting token with
    | none => none
    | some (stack, expecting) => readFrom? stack expecting rest

end Reader

/-- The value that a text writes. -/
def read? (text : String) : Option Value :=
  (Token.scan? text).bind (Reader.readFrom? [] .value)

end CatalogSync.Value
