import Listfile.Keyed
import Listfile.Request
import Listfile.Text.Split

/-!
The arguments of the command line: options before a command, the command, and its own options. An option may
be written with its value in one word or in two.
-/

namespace Listfile

inductive Command where
  | convert (request : Request) (snapshot output : Option String) (dryRun : Bool)
  | list (snapshot : Option String)
  deriving DecidableEq, Repr

def Command.snapshot? : Command → Option String
  | convert _ snapshot _ _ => snapshot
  | list snapshot => snapshot

structure Arguments where
  command : Command
  verbosity : Nat := 0
  root : Option String := none
  deriving DecidableEq, Repr

inductive UsageError where
  | unknownArgument
  | unknownCommand
  | missingValue
  | unexpectedValue
  | repeatedArgument
  | missingCommand
  | help
  | helpOnNothing
  | version
  deriving DecidableEq, Repr

namespace CommandLine

inductive OptionKind where
  | flag
  | count
  | value
  /-- Values between commas, added up over repetitions. -/
  | values
  | help
  | version
  deriving DecidableEq, Repr

structure OptionSpec where
  name : String
  letter : Option Char
  kind : OptionKind
  deriving DecidableEq, Repr

def OptionSpec.takesValue (spec : OptionSpec) : Bool := spec.kind = .value || spec.kind = .values

def helpOption : OptionSpec := ⟨"help", some 'h', .help⟩

def modelOption : OptionSpec := ⟨"model", some 'm', .value⟩

def topOptions : List OptionSpec :=
  [⟨"verbose", some 'v', .count⟩, ⟨"root", some 'r', .value⟩, helpOption, ⟨"version", some 'V', .version⟩]

def convertOptions : List OptionSpec :=
  [⟨"platform", some 'p', .value⟩, ⟨"configurations", some 'c', .values⟩, modelOption,
    ⟨"output", some 'o', .value⟩, ⟨"dry-run", none, .flag⟩, helpOption]

def listOptions : List OptionSpec := [modelOption, helpOption]

def commandNames : List String := ["convert", "list", "help"]

structure State where
  settled : Keyed (List String) := []
  pending : Option (OptionSpec × Option String) := none

abbrev Outcome := Except UsageError State

def State.valuesOf (state : State) (name : String) : List String :=
  (state.settled.get? name).getD []

def State.settle (state : State) (spec : OptionSpec) (value : String) : Outcome :=
  let before := state.valuesOf spec.name
  let settled (values : List String) : State := { state with settled := state.settled.put spec.name values }
  match spec.kind with
  | .help => .error .help
  | .version => .error .version
  | .count => .ok (settled (before ++ [value]))
  | .values => .ok (settled (before ++ Text.fields (· = ',') value))
  | .flag | .value => if before.isEmpty then .ok (settled [value]) else .error .repeatedArgument

def State.resolve (state : State) : Outcome :=
  match state.pending with
  | none => .ok state
  | some (_, none) => .error .missingValue
  | some (spec, some value) => { state with pending := none }.settle spec value

def State.react (state : State) (spec : OptionSpec) (value : String) : Outcome := do
  (← state.resolve).settle spec value

def State.await (state : State) (spec : OptionSpec) : Outcome := do
  return { ← state.resolve with pending := some (spec, none) }

def State.isWaiting (state : State) : Bool :=
  match state.pending with
  | some (_, none) => true
  | _ => false

def splitLong (word : List Char) : String × Option String :=
  let name := String.ofList (word.takeWhile (· ≠ '='))
  match word.dropWhile (· ≠ '=') with
  | [] => (name, none)
  | _ :: value => (name, some (String.ofList value))

def longOption (options : List OptionSpec) (state : State) (word : List Char) : Outcome :=
  let (name, value?) := splitLong word
  match options.find? (·.name = name) with
  | none => .error .unknownArgument
  | some spec =>
    match spec.takesValue, value? with
    | true, some value => state.react spec value
    | true, none => state.await spec
    | false, some _ => .error .unexpectedValue
    | false, none => state.react spec ""

def attached : List Char → String
  | '=' :: value => String.ofList value
  | value => String.ofList value

/-- The letters behind one hyphen; the first option with a value takes the rest of the word. -/
def shortOptions (options : List OptionSpec) (state : State) : List Char → Outcome
  | [] => .ok state
  | letter :: rest =>
    match options.find? (·.letter = some letter) with
    | none => .error .unknownArgument
    | some spec =>
      if !spec.takesValue then
        match state.react spec "" with
        | .ok state => shortOptions options state rest
        | .error error => .error error
      else if rest.isEmpty then state.await spec
      else state.react spec (attached rest)

def stray (commands : List String) (afterHyphens : Bool) (word : String) : UsageError :=
  if commands.isEmpty || (afterHyphens && commands.contains word) then .unknownArgument
  else .unknownCommand

def plainWord (commands : List String) (state : State) (word : String) : Outcome :=
  match state.pending with
  | some (spec, none) => .ok { state with pending := some (spec, some word) }
  | _ => .error (stray commands false word)

def word (options : List OptionSpec) (commands : List String) (state : State) (word : String) : Outcome :=
  match word.toList with
  | '-' :: '-' :: long => longOption options state long
  | '-' :: c :: short => shortOptions options state (c :: short)
  | _ => plainWord commands state word

/-- Reads words up to a command, and returns it with the words behind it. Two hyphens end the options. -/
def words (options : List OptionSpec) (commands : List String) (state : State) :
    List String → Except UsageError (State × Option (String × List String))
  | [] => .ok (state, none)
  | next :: rest =>
    if !state.isWaiting && commands.contains next then .ok (state, some (next, rest))
    else if next = "--" then
      match rest with
      | [] => .ok (state, none)
      | first :: _ => .error (stray commands true first)
    else
      match word options commands state next with
      | .ok state => words options commands state rest
      | .error error => .error error

def ownOptions (options : List OptionSpec) (rest : List String) : Outcome := do
  let (state, _) ← words options [] {} rest
  state.resolve

def State.value? (state : State) (name : String) : Option String := (state.valuesOf name).head?

def convertCommand (state : State) : Command :=
  let configurations := (state.settled.get? "configurations")
  .convert { platform := (state.value? "platform").getD "x64", configurations } (state.value? "model")
    (state.value? "output") (state.value? "dry-run").isSome

/-- Each word after `help` has to be a command of the one before it, and only the top level has any. -/
def helpFor : List String → UsageError
  | [] => .help
  | [name] => if commandNames.contains name then .help else .unknownCommand
  | _ => .unknownCommand

def command (name : String) (rest : List String) : Except UsageError Command :=
  match name with
  | "convert" => do return convertCommand (← ownOptions convertOptions rest)
  | "list" => do return .list ((← ownOptions listOptions rest).value? "model")
  | _ => .error (helpFor rest)

def maxVerbosity : Nat := 255

end CommandLine

open CommandLine in
def Arguments.parse (args : List String) : Except UsageError Arguments := do
  let (state, found) ← words topOptions commandNames {} args
  match found with
  | none =>
    let state ← state.resolve
    throw (if state.settled.isEmpty then .helpOnNothing else .missingCommand)
  | some (name, rest) =>
    let command ← CommandLine.command name rest
    let state ← state.resolve
    let verbosity := min maxVerbosity (state.valuesOf "verbose").length
    return { command, verbosity, root := state.value? "root" }

end Listfile
