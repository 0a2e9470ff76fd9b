import CollectionPlan.Command.Basic

-- Reading a command from the words of a command line.
namespace CollectionPlan.Command

-- Why there is no command to run.
inductive UsageError
  | helpRequested
  | versionRequested
  | missingCommand
  | unknownCommand
  | unknownArgument
  | invalidValue
  | unexpectedValue
  | repeatedArgument
deriving DecidableEq, Repr

namespace UsageError

def versionLine : String := "collgen 0.3.0\n"

def usage : String :=
  String.join <| ["Usage: collgen <COMMAND>",
    "",
    "Commands:",
    "  plan [PATH] [-f FORMAT] [-o FILE] [--no-legacy-check] [--strict] [-v]",
    "  init [-f]",
    "  catalog [-f FORMAT]",
    "  help [COMMAND]"].map (· ++ "\n")

-- Who asks for help or for the version gets it; all else is a mistake.
def isRequest : UsageError → Bool
  | helpRequested | versionRequested => true
  | _                                => false

def status (e : UsageError) : Nat :=
  if e.isRequest then 0 else 2

def stdout : UsageError → String
  | helpRequested    => usage
  | versionRequested => versionLine
  | _                => ""

def stderr (e : UsageError) : String :=
  if e.isRequest then "" else usage

end UsageError

inductive Argument
  | path
  | format
  | output
  | noLegacyCheck
  | strict
  | verbose
  | force
  | help
  | version
deriving DecidableEq, Repr

namespace Argument

def long : Argument → Option String
  | path          => none
  | format        => some "format"
  | output        => some "output"
  | noLegacyCheck => some "no-legacy-check"
  | strict        => some "strict"
  | verbose       => some "verbose"
  | force         => some "force"
  | help          => some "help"
  | version       => some "version"

def short : Argument → Option Char
  | format  => some 'f'
  | output  => some 'o'
  | verbose => some 'v'
  | force   => some 'f'
  | help    => some 'h'
  | version => some 'V'
  | _       => none

def takesValue : Argument → Bool
  | path | format | output => true
  | _                      => false

def canRepeat (a : Argument) : Bool :=
  a = verbose

-- Paths are not empty, and a format is one that there is.
def accepts (a : Argument) (value : String) : Bool :=
  match a with
  | path | output => !value.isEmpty
  | format        => (OutputFormat.ofName? value).isSome
  | _             => true

end Argument

-- The words that commands start with.
inductive Name
  | plan
  | init
  | catalog
  | help
deriving DecidableEq, Repr

namespace Name

def text : Name → String
  | plan    => "plan"
  | init    => "init"
  | catalog => "catalog"
  | help    => "help"

def all : List Name :=
  [plan, init, catalog, help]

def ofText? (text : String) : Option Name :=
  all.find? (·.text = text)

def arguments : Name → List Argument
  | plan    => [.path, .format, .output, .noLegacyCheck, .strict, .verbose, .help]
  | init    => [.force, .help]
  | catalog => [.format, .help]
  | help    => []

end Name

-- An option that still waits for its value, or an argument whose value was not checked yet.
structure Pending where
  argument : Argument
  value    : Option String
deriving DecidableEq, Repr

-- The arguments that were given so far. A flag has an empty value.
structure Given where
  values     : List (Argument × String) := []
  pending    : Option Pending := none
  onlyPaths  : Bool := false
deriving DecidableEq, Repr

namespace Given

def has (g : Given) (a : Argument) : Bool :=
  g.values.any (·.1 = a) || g.pending.any (·.argument = a)

def value? (g : Given) (a : Argument) : Option String :=
  g.values.lookup a

def count (g : Given) (a : Argument) : Nat :=
  g.values.countP (·.1 = a)

def record (g : Given) (a : Argument) (value : String) : Except UsageError Given :=
  if !a.canRepeat && (g.value? a).isSome then throw .repeatedArgument
  else if !a.accepts value then throw .invalidValue
  else return { g with values := g.values ++ [(a, value)] }

-- Before anything else is taken, what is pending has to be in order.
def settle (g : Given) : Except UsageError Given :=
  match g.pending with
  | none                => return g
  | some ⟨a, some value⟩ => { g with pending := none }.record a value
  | some ⟨_, none⟩       => throw .invalidValue

-- Takes an argument whose value is complete.
def take (g : Given) (a : Argument) (value : String) : Except UsageError Given := do
  let g ← g.settle
  match a with
  | .help    => throw .helpRequested
  | .version => throw .versionRequested
  | a        => g.record a value

-- Takes an option whose value is the next word.
def await (g : Given) (a : Argument) : Except UsageError Given := do
  return { (← g.settle) with pending := some ⟨a, none⟩ }

-- The name of a long option and the value behind its equals sign.
def splitLong (cs : List Char) : String × Option String :=
  let name := String.ofList (cs.takeWhile (· ≠ '='))
  match cs.dropWhile (· ≠ '=') with
  | _ :: value => (name, some (String.ofList value))
  | []         => (name, none)

def long (known : List Argument) (cs : List Char) (g : Given) : Except UsageError Given := do
  let (name, value) := splitLong cs
  match known.find? (·.long = some name), value with
  | none, _            => throw .unknownArgument
  | some a, some value => if a.takesValue then g.take a value else throw .unexpectedValue
  | some a, none       => if a.takesValue then g.await a else g.take a ""

-- Flags can share one dash; what follows an option that takes a value is this value.
def short (known : List Argument) : List Char → Given → Except UsageError Given
  | [], g      => return g
  | c :: cs, g => do
    match known.find? (·.short = some c) with
    | none   => throw .unknownArgument
    | some a =>
      if !a.takesValue then short known cs (← g.take a "")
      else match cs with
        | []           => g.await a
        | '=' :: value => g.take a (String.ofList value)
        | value        => g.take a (String.ofList value)

def path (known : List Argument) (word : String) (g : Given) : Except UsageError Given := do
  if !known.contains .path || g.has .path then throw .unknownArgument
  return { (← g.settle) with pending := some ⟨.path, some word⟩ }

def isLong : List Char → Bool
  | '-' :: '-' :: _ => true
  | _               => false

def isShort : List Char → Bool
  | '-' :: _ :: _ => true
  | _             => false

def step (known : List Argument) (g : Given) (word : String) : Except UsageError Given :=
  let cs := word.toList
  if g.onlyPaths then g.path known word
  else if word = "--" then return { g with onlyPaths := true }
  else if isLong cs then g.long known (cs.drop 2)
  else if isShort cs then g.short known cs.tail
  else match g.pending with
    | some ⟨a, none⟩ => return { g with pending := some ⟨a, some word⟩ }
    | _             => g.path known word

def ofWords (known : List Argument) (words : List String) : Except UsageError Given := do
  (← words.foldlM (step known) {}).settle

def format? (g : Given) : Option OutputFormat :=
  (g.value? .format).bind OutputFormat.ofName?

end Given

-- A count that does not grow any more.
def maxVerbosity : Nat := 255

def ofGiven (g : Given) : Name → Command
  | .plan    => .plan {
      path          := (g.value? .path).getD "."
      format        := g.format?
      output        := g.value? .output
      noLegacyCheck := g.has .noLegacyCheck
      strict        := g.has .strict
      verbosity     := min maxVerbosity (g.count .verbose) }
  | .init    => .init (g.has .force)
  | _        => .catalog (g.format?.getD .terminal)

-- Help is given on the whole program, or on one command.
def help : List String → UsageError
  | []        => .helpRequested
  | [word]    => if (Name.ofText? word).isSome then .helpRequested else .unknownCommand
  | _ :: _ :: _ => .unknownCommand

-- Options in front of the command.
def option (word : String) : UsageError :=
  let cs := word.toList
  let known : List Argument := [.help, .version]
  let given := if Given.isLong cs then Given.long known (cs.drop 2) {} else Given.short known cs.tail {}
  match given with
  | .error e => e
  | .ok _    => .missingCommand

-- Behind two dashes no word names a command.
def afterDashes : List String → UsageError
  | []        => .missingCommand
  | word :: _ => if (Name.ofText? word).isSome then .unknownArgument else .unknownCommand

-- The command that the words of a command line ask for, the name of the program left out.
def parse : List String → Except UsageError Command
  | []            => throw .missingCommand
  | word :: words => do
    match Name.ofText? word with
    | some .help => throw (help words)
    | some name  => return ofGiven (← Given.ofWords name.arguments words) name
    | none       =>
      if word = "--" then throw (afterDashes words)
      else if Given.isShort word.toList then throw (option word)
      else throw .unknownCommand

end CollectionPlan.Command
