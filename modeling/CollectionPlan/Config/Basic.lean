import CollectionPlan.Failure
import CollectionPlan.Output.Format
import CollectionPlan.Text.Quoted
import CollectionPlan.Toml.Document

namespace CollectionPlan

structure Config where
  -- Patterns of source files that are skipped.
  ignore         : List String := []
  legacyTagCheck : Bool := true
  format         : OutputFormat := .terminal
deriving DecidableEq, Repr

namespace Config

def fileName : String := ".collgen.toml"

def defaultLines : List String := [
  "# collgen configuration",
  "",
  "[scan]",
  "# Source files to skip (glob patterns, matched against path and file name)",
  "ignore = [\"*_gen.rs\"]",
  "# Warn about fields that still use the retired #[collgen(...)] attribute",
  "legacy_tag_check = true",
  "",
  "[output]",
  "# terminal, json or yaml",
  "format = \"terminal\""]

def defaultText : String :=
  String.join (defaultLines.map (· ++ "\n"))

-- Reading.

-- The value of a setting in a section. A section is a table, or a list of its settings in order. A
-- time counts as a section without any.
def setting? (group : Toml.Value) (name : String) (place : Nat) : Option (Option Toml.Value) :=
  match group with
  | .table _ entries => some (entries.lookup name)
  | .list items      => some items[place]?
  | .tables items    => some (items[place]?.map (Toml.Value.table .header))
  | .time            => some none
  | _                => none

-- A setting that is missing has its default value, one that does not read is an error.
def read? (entries : Toml.Entries) (path : String × String) (place : Nat)
    (read : Toml.Value → Option α) (default : α) : Option α := do
  match entries.lookup path.1 with
  | none          => return default
  | some group =>
    match ← setting? group path.2 place with
    | none       => return default
    | some value => read value

def text? : Toml.Value → Option String
  | .text s => some s
  | _       => none

def texts? : Toml.Value → Option (List String)
  | .list items => items.mapM text?
  | _           => none

def flag? : Toml.Value → Option Bool
  | .flag b => some b
  | _       => none

def isEmpty : Toml.Value → Bool
  | .table _ entries => entries.isEmpty
  | .list items      => items.isEmpty
  | _                => false

-- A format is a name, or a table with this name and nothing else.
def format? : Toml.Value → Option OutputFormat
  | .text name               => OutputFormat.ofName? name
  | .table _ [(name, value)] => if isEmpty value then OutputFormat.ofName? name else none
  | _                        => none

def ofEntries? (entries : Toml.Entries) : Option Config := do
  let ignore ← read? entries ("scan", "ignore") 0 texts? []
  let legacyTagCheck ← read? entries ("scan", "legacy_tag_check") 1 flag? true
  let format ← read? entries ("output", "format") 0 format? .terminal
  return { ignore, legacyTagCheck, format }

-- The settings in the text of a configuration file, if it is one. What it does not set has its
-- default value, and what is no setting is skipped.
def parse? (text : String) : Option Config := do
  ofEntries? (← Toml.parse? text)

def parseFailure : String :=
  s!"Failed to parse {fileName}: <syntax>"

-- Checking.

def invalidPattern (pattern : String) (e : Glob.Error) : Failure :=
  .configuration s!"invalid ignore pattern {Text.quoted pattern}: {e.message}"

-- The pattern that does not parse, the first of them.
def patterns (c : Config) : Except Failure (List Glob) :=
  c.ignore.mapM fun pattern => (Glob.parse pattern).mapError (invalidPattern pattern)

end Config
end CollectionPlan
