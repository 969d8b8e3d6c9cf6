/-
**Arguments of a command.**

* `Grammar` — the switches, the options and the number of free arguments that a command takes.
* `Grammar.read` — the arguments sorted by what they are.

A switch is there at most once; several may share one dash. An option takes its value from behind an
equals sign, or from the next argument, or, if it takes many, from all arguments up to the next one
that starts with a dash. After two dashes every argument is a free one.
-/

namespace CatalogSync

/-- An argument that is there or not. -/
structure Switch where
  long : String
  short : Char
  deriving DecidableEq, Repr

/-- An argument with values. -/
structure ValuedOption where
  long : String
  /-- Whether it may be repeated and takes several values at once. -/
  takesMany : Bool
  /-- Whether a value may be the empty text. -/
  takesEmpty : Bool
  deriving DecidableEq, Repr

/-- What a command takes. -/
structure Grammar where
  switches : List Switch
  options : List ValuedOption
  /-- The most free arguments. -/
  freeCount : Nat
  deriving DecidableEq, Repr

/-- Why arguments are not taken. -/
inductive Refusal where
  /-- They are not of the right form. -/
  | misuse
  /-- They ask for help instead. -/
  | helpWanted
  deriving DecidableEq, Repr

/-- Arguments sorted by what they are. -/
structure Arguments where
  /-- The long names of the switches. -/
  switches : List String
  /-- The values of options, under their long names. -/
  values : List (String × String)
  free : List String
  deriving DecidableEq, Repr, Inhabited

namespace Arguments

/-- No arguments. -/
def none : Arguments := ⟨[], [], []⟩

/-- Whether a switch is there. -/
def has (arguments : Arguments) (long : String) : Bool := arguments.switches.contains long

/-- The values of an option, in order. -/
def valuesOf (arguments : Arguments) (long : String) : List String :=
  (arguments.values.filter fun value => value.1 == long).map Prod.snd

/-- The arguments with a switch added. -/
def addSwitch (arguments : Arguments) (switch : Switch) : Except Refusal Arguments :=
  if arguments.has switch.long then .error .misuse
  else .ok { arguments with switches := arguments.switches ++ [switch.long] }

/-- The arguments with a value of an option added. -/
def addValue (arguments : Arguments) (option : ValuedOption) (value : String) :
    Except Refusal Arguments :=
  if (value.isEmpty && !option.takesEmpty) ||
      (!option.takesMany && !(arguments.valuesOf option.long).isEmpty) then .error .misuse
  else .ok { arguments with values := arguments.values ++ [(option.long, value)] }

end Arguments

namespace Grammar

/-- An option that waits for values, and whether it has one already. -/
structure Waiting where
  option : ValuedOption
  isSatisfied : Bool

/-- Fails if an option still waits for its first value. -/
def settle : Option Waiting → Except Refusal Unit
  | some ⟨_, false⟩ => .error .misuse
  | _ => .ok ()

/-- The arguments with a free one added. -/
def addFree (grammar : Grammar) (arguments : Arguments) (value : String) :
    Except Refusal Arguments :=
  if arguments.free.length < grammar.freeCount then
    .ok { arguments with free := arguments.free ++ [value] }
  else .error .misuse

/-- The arguments with the switches added that share one dash. -/
def addCluster (grammar : Grammar) : Arguments → List Char → Except Refusal Arguments
  | arguments, [] => .ok arguments
  | arguments, character :: rest =>
    if character = 'h' then .error .helpWanted
    else
      match grammar.switches.find? (·.short == character) with
      | none => .error .misuse
      | some switch => do grammar.addCluster (← arguments.addSwitch switch) rest

/-- The arguments with a named one added, and the option that waits for values after it. -/
def addNamed (grammar : Grammar) (arguments : Arguments) (long : String) (value : Option String) :
    Except Refusal (Arguments × Option Waiting) :=
  match grammar.switches.find? (·.long == long), grammar.options.find? (·.long == long), value with
  | some switch, _, none => do .ok (← arguments.addSwitch switch, none)
  | none, some option, some value => do .ok (← arguments.addValue option value, none)
  | none, some option, none => .ok (arguments, some ⟨option, false⟩)
  | none, none, none => .error (if long = "help" then .helpWanted else .misuse)
  | _, _, some _ => .error .misuse

/-- The forms of an argument. -/
inductive Form where
  | twoDashes
  | named (long : String) (value : Option String)
  | cluster (characters : List Char)
  | plain

/-- The form of an argument. -/
def formOf (argument : String) : Form :=
  match argument.toList with
  | ['-', '-'] => .twoDashes
  | '-' :: '-' :: name =>
    let long := String.ofList (name.takeWhile (· != '='))
    match name.dropWhile (· != '=') with
    | '=' :: value => .named long (some (String.ofList value))
    | _ => .named long none
  | '-' :: first :: rest => .cluster (first :: rest)
  | _ => .plain

/-- Sorts arguments, given those sorted so far and the option that waits for values. -/
def sort (grammar : Grammar) : Option Waiting → Arguments → List String →
    Except Refusal Arguments
  | waiting, arguments, [] => do
    settle waiting
    .ok arguments
  | waiting, arguments, argument :: rest =>
    match formOf argument, waiting with
    | .twoDashes, _ => do
      settle waiting
      rest.foldlM grammar.addFree arguments
    | .named long value, _ => do
      settle waiting
      let (arguments, waiting) ← grammar.addNamed arguments long value
      grammar.sort waiting arguments rest
    | .cluster characters, _ => do
      settle waiting
      grammar.sort none (← grammar.addCluster arguments characters) rest
    | .plain, some ⟨option, _⟩ => do
      let arguments ← arguments.addValue option argument
      grammar.sort (if option.takesMany then some ⟨option, true⟩ else none) arguments rest
    | .plain, none => do
      grammar.sort none (← grammar.addFree arguments argument) rest

/-- The arguments sorted by what they are. -/
def read (grammar : Grammar) (arguments : List String) : Except Refusal Arguments :=
  grammar.sort none .none arguments

end Grammar

end CatalogSync
