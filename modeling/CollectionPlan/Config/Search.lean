import CollectionPlan.Config.Basic

namespace CollectionPlan.Config

def maxSearchDepth : Nat := 10

-- The settings in the nearest configuration file. A file that cannot be used hides those above it.
def find? (t : FileTree) (start : FilePath) (depth : Nat) : Option Config := do
  let path ← (((start.ancestors).take depth).map (·.join fileName)).find? t.isFile
  parse? (← (t.readText path).toOption)

-- The settings that are in force in a directory.
def loadFrom (t : FileTree) (start : FilePath) : Config :=
  (find? t start maxSearchDepth).getD {}

def load (t : FileTree) : Config :=
  loadFrom t t.workingPath

end CollectionPlan.Config
