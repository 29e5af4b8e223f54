import UtxoWallet.CommandLine.Invocation
import UtxoWallet.Text.Decimal

/-! # Reading arguments

Arguments are read in order. The first that asks for help or for the version, or that is wrong,
decides.
-/

namespace UtxoWallet.CommandLine

inductive Stop where
  | help
  | version
  /-- The arguments make no sense. -/
  | usage
deriving DecidableEq, Repr

/-! ## Amounts -/

def integer? : List Char → Option Int
  | '-' :: cs => (Text.natural? cs).map fun n => -(n : Int)
  | '+' :: cs => (Text.natural? cs).map fun n => (n : Int)
  | cs => (Text.natural? cs).map fun n => (n : Int)

def amount? (text : String) : Option Int64 := do
  let i ← integer? text.toList
  if Int64.minValue.toInt ≤ i ∧ i ≤ Int64.maxValue.toInt then some (Int64.ofInt i) else none

/-! ## Arguments -/

inductive Argument where
  /-- Two dashes alone: no options follow. -/
  | escape
  | long (name : String) (value : Option String)
  /-- Letters behind one dash. The first one decides. -/
  | short (letter : Char)
  /-- Anything else, and a single dash. -/
  | plain
deriving DecidableEq, Repr

def longArgument (cs : List Char) : Argument :=
  let name := cs.takeWhile (· ≠ '=')
  match cs.dropWhile (· ≠ '=') with
  | [] => .long (String.ofList name) none
  | _ :: value => .long (String.ofList name) (some (String.ofList value))

def Argument.of (text : String) : Argument :=
  match text.toList with
  | ['-', '-'] => .escape
  | '-' :: '-' :: cs => longArgument cs
  | '-' :: c :: _ => .short c
  | _ => .plain

/-! ## Options -/

inductive Shape where
  | switch
  | text
  | path
  | amount
deriving DecidableEq, Repr

structure Level where
  options : List (String × Shape)
  /-- Whether the version can be asked for here. -/
  hasVersion : Bool := false

def Shape.accepts : Shape → String → Bool
  | .switch, _ => false
  | .text, _ => true
  | .path, value => !value.isEmpty
  | .amount, value => (amount? value).isSome

/-- Whether a value may stand in an argument of its own. A dash before it would make it an option,
but for a negative amount. -/
def Shape.standsAlone (shape : Shape) (value : String) : Bool :=
  decide (Argument.of value = .plain) || (shape == .amount && (amount? value).isSome)

/-- What the options said. A switch has an empty value. -/
abbrev Given := List (String × String)

/-- A value for an option that has none yet. -/
def give (given : Given) (name : String) (shape : Shape) (value : String) : Except Stop Given :=
  if (given.lookup name).isSome || !shape.accepts value then .error .usage
  else .ok (given ++ [(name, value)])

def giveSwitch (given : Given) (name : String) (value : Option String) : Except Stop Given :=
  if (given.lookup name).isSome || value.isSome then .error .usage
  else .ok (given ++ [(name, "")])

def shortStop (level : Level) (letter : Char) : Stop :=
  if letter = 'h' then .help
  else if level.hasVersion && letter == 'V' then .version
  else .usage

/-- What an option means that the level does not have itself. -/
def longStop (level : Level) (name : String) (value : Option String) : Stop :=
  if name = "help" ∧ value = none then .help
  else if level.hasVersion ∧ name = "version" ∧ value = none then .version
  else .usage

structure Options where
  given : Given := []
  /-- A value in an argument of its own, with its option. It is not judged yet. -/
  waiting : Option (String × Shape × String) := none
deriving DecidableEq, Repr

/-- Judges the value that is still waiting. -/
def Options.settle (options : Options) : Except Stop Given :=
  match options.waiting with
  | none => .ok options.given
  | some (name, shape, value) => give options.given name shape value

/-- Reads options, up to the first argument that is none. The next option settles what is waiting,
be it one that asks for help. -/
def readOptions (level : Level) (options : Options) :
    List String → Except Stop (Options × List String)
  | [] => .ok (options, [])
  | argument :: rest =>
    match Argument.of argument with
    | .plain => .ok (options, argument :: rest)
    | .escape => if rest.isEmpty then .ok (options, []) else .error .usage
    | .short letter => do
      let _ ← options.settle
      throw (shortStop level letter)
    | .long name value => do
      let given ← options.settle
      match level.options.lookup name with
      | none => throw (longStop level name value)
      | some .switch => readOptions level ⟨← giveSwitch given name value, none⟩ rest
      | some shape =>
        match value, rest with
        | some value, rest => readOptions level ⟨← give given name shape value, none⟩ rest
        | none, [] => throw .usage
        | none, value :: rest =>
          if shape.standsAlone value then
            readOptions level ⟨given, some (name, shape, value)⟩ rest
          else throw .usage

/-! ## Levels -/

def topLevel : Level where
  options := [("dir", .path), ("node", .text)]
  hasVersion := true

def commands : List (String × Level × (Given → Option Command)) :=
  [("list", ⟨[("short", .switch)], false⟩, fun g => some (.list (g.lookup "short").isSome)),
   ("create", ⟨[("name", .text)], false⟩, fun g => (g.lookup "name").map .create),
   ("mine", ⟨[("to", .text)], false⟩, fun g => (g.lookup "to").map .mine),
   ("balance", ⟨[("of", .text)], false⟩, fun g => (g.lookup "of").map .balance),
   ("transfer", ⟨[("from", .text), ("to", .text), ("amount", .amount)], false⟩, fun g => do
      return .transfer (← g.lookup "from") (← g.lookup "to") (← amount? (← g.lookup "amount")))]

def readCommand (level : Level) (make : Given → Option Command) (arguments : List String) :
    Except Stop Command := do
  let (options, rest) ← readOptions level {} arguments
  if !rest.isEmpty then throw .usage
  (make (← options.settle)).elim (.error .usage) .ok

def helpStop : List String → Stop
  | [] => .help
  | [name] => if name = "help" ∨ (commands.lookup name).isSome then .help else .usage
  | _ => .usage

/-- A value that waits before a command's name is judged after the command has been read. -/
def read (arguments : List String) : Except Stop Invocation := do
  let (options, rest) ← readOptions topLevel {} arguments
  match rest with
  | [] => throw .usage
  | name :: rest =>
    if name = "help" then throw (helpStop rest)
    match commands.lookup name with
    | none => throw .usage
    | some (level, make) =>
      let command ← readCommand level make rest
      let given ← options.settle
      return ⟨given.lookup "dir", given.lookup "node", command⟩

end UtxoWallet.CommandLine
