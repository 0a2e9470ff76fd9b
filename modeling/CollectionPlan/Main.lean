import CollectionPlan.Command.Run

-- The program. It loads the files that a command can look at, runs the command on them, and stores
-- what the command has changed.
namespace CollectionPlan.Program

def loadFile (path : String) : IO Node := do
  try return .file (← IO.FS.readBinFile path)
  catch _ => return .locked .denied

-- Loads the file or the directory at a place, if there is one.
def load (t : FileTree) (place : Place) : IO FileTree := do
  let path := (← IO.currentDir) / FileTree.pathOf place
  try
    match (← path.metadata).type with
    | .dir  => return t.put place .directory
    | .file => return t.put place (← loadFile path.toString)
    | _     => return t
  catch _ => return t

def loadAll (t : FileTree) (places : List Place) : IO FileTree :=
  places.foldlM load t

-- Loads all that a path goes through, and what is right inside of the directory that it leads to.
def loadPath (t : FileTree) (p : FilePath) : IO FileTree := do
  let t ← loadAll t (FileTree.placesFrom (t.start p) (FileTree.stepsOf p))
  match t.locate p with
  | .error _  => return t
  | .ok place =>
    let path := (← IO.currentDir) / FileTree.pathOf place
    if !(← path.isDir) then return t
    loadAll t ((← path.readDir).toList.map fun e => place ++ [e.fileName])

def workingPlace : IO Place := do
  return (← IO.currentDir).components.filter (!·.isEmpty)

def loadFor (c : Command) : IO FileTree := do
  let place ← workingPlace
  let above := [] :: FileTree.waypoints place
  let t ← loadAll (.ofWorkingDir place) (above.map (· ++ [Config.fileName]))
  c.paths.foldlM loadPath t

-- Stores a file that has changed.
def store (before after : FileTree) (p : FilePath) : IO Unit := do
  match before.readText p, after.readText p with
  | .ok old, .ok new   => if old ≠ new then IO.FS.writeFile p new
  | .error _, .ok new  => IO.FS.writeFile p new
  | _, .error _        => return

def run (c : Command) : IO UInt32 := do
  let stdout ← IO.getStdout
  let before ← loadFor c
  let outcome := c.run before (← stdout.isTty)
  c.paths.forM (store before outcome.tree)
  stdout.putStr outcome.stdout
  IO.eprint outcome.stderr
  return outcome.status.toUInt32

end CollectionPlan.Program

def main (args : List String) : IO UInt32 := do
  match CollectionPlan.Command.parse args with
  | .ok command => CollectionPlan.Program.run command
  | .error e    =>
    IO.print e.stdout
    IO.eprint e.stderr
    return e.status.toUInt32
