import CollectionPlan.Command.Arguments
import CollectionPlan.Config.Search
import CollectionPlan.Plan.Directory

namespace CollectionPlan

-- Why a command failed, and what is behind it.
structure Trouble where
  message : String
  causes  : List String := []
deriving DecidableEq, Repr

namespace Trouble

def inContext (message : String) (chain : List String) : Trouble where
  message := message
  causes  := chain

-- The message and its causes in one line.
def line (t : Trouble) : String :=
  ": ".intercalate (t.message :: t.causes)

def numbered (causes : List String) : List String :=
  causes.zipIdx.map fun (cause, i) => s!"    {i}: {cause}"

def causeLines : List String → List String
  | []      => []
  | [cause] => ["", "Caused by:", "    " ++ cause]
  | causes  => ["", "Caused by:"] ++ numbered causes

def text (t : Trouble) : String :=
  String.join ((("Error: " ++ t.message) :: causeLines t.causes).map (· ++ "\n"))

end Trouble

-- What a command leaves behind.
structure Outcome where
  tree    : FileTree
  stdout  : String := ""
  trouble : Option Trouble := none

namespace Outcome

def status (o : Outcome) : Nat :=
  if o.trouble.isSome then 1 else 0

def stderr (o : Outcome) : String :=
  o.trouble.elim "" (·.text)

end Outcome

namespace FileTree

def strictTrouble? (strict : Bool) (r : Report) : Option Trouble :=
  if strict && !r.diagnostics.isEmpty then
    some { message := s!"{r.diagnostics.length} diagnostics reported (--strict)" }
  else none

-- Only a report that is complete is written, whatever the findings in it are.
def deliver (t : FileTree) (output : Option FilePath) (text : String) (trouble : Option Trouble) :
    Outcome :=
  match output with
  | none      => { tree := t, stdout := text, trouble }
  | some path =>
    match t.write path text with
    | .ok tree => { tree, trouble }
    | .error e => { tree := t, trouble := some { message := e.message } }

-- Plans a directory and writes the report to the output.
def planProject (t : FileTree) (colors : Bool) (r : PlanRequest) : Outcome :=
  let c := (Config.load t).override r
  match t.planDirectory r.path c with
  | .error f   => { tree := t, trouble := some (.inContext s!"Failed to plan {r.path}" f.chain) }
  | .ok report =>
    t.deliver r.output (c.format.report colors report) (strictTrouble? r.strict report)

-- Writes a configuration file with the default settings. One that is there is kept, unless it is
-- forced.
def writeDefaultConfig (t : FileTree) (path : FilePath) (force : Bool) : Except Trouble FileTree := do
  if t.contains path && !force then
    throw { message := "Configuration file already exists. Use --force to overwrite." }
  (t.write path Config.defaultText).mapError fun e => .inContext s!"Failed to write {path}" [e.message]

def initConfig (t : FileTree) (force : Bool) : Outcome :=
  match t.writeDefaultConfig Config.fileName force with
  | .ok tree       => { tree, stdout := s!"Created {Config.fileName} configuration file\n" }
  | .error trouble => { tree := t, trouble := some trouble }

end FileTree

-- What a command does to a tree of files.
def Command.run (t : FileTree) (colors : Bool) : Command → Outcome
  | plan request   => t.planProject colors request
  | init force     => t.initConfig force
  | catalog format => { tree := t, stdout := format.catalog colors }

end CollectionPlan
