import CollectionPlan.Failure
import CollectionPlan.Source.PackageName
import CollectionPlan.Source.Tree

namespace CollectionPlan

-- A source file that is there, whether it can be read or not.
structure SourceEntry where
  path : FilePath
  node : Node

namespace SourceEntry

def unreadable (e : SourceEntry) (error : IoError) : String :=
  s!"failed to read {e.path} ({error.message})"

-- A file that cannot be read leaves a finding and nothing else.
def readAll : List SourceEntry → Collecting (List SourceFile)
  | []      => return []
  | e :: es => do
    match e.node.text with
    | .ok text     =>
      let files ← readAll es
      return { path := e.path, text } :: files
    | .error error =>
      .note .parseFailure (e.unreadable error)
      readAll es

end SourceEntry

namespace FileTree

def sourceExtension : String := "rs"

-- A pattern is tried on the path and on the file name.
def isIgnored (patterns : List Glob) (p : FilePath) : Bool :=
  patterns.any fun g => g.isMatch p || g.isMatch (p.fileName?.getD "")

def isSource (patterns : List Glob) (e : SourceEntry) : Bool :=
  e.node.isFile && e.path.extension? = some sourceExtension && !isIgnored patterns e.path

-- What is right inside of a directory, ordered by name.
def listing (t : FileTree) (place : Place) (dir : FilePath) : List SourceEntry :=
  ((t.entries place).mergeSort fun a b => a.1 ≤ b.1).map fun (name, node) =>
    { path := dir.join name, node }

-- The source files right inside of a directory that no pattern excludes.
def sourceEntries (t : FileTree) (dir : FilePath) (patterns : List Glob) :
    Except Failure (List SourceEntry) :=
  match t.locate dir with
  | .error e  => .error (.walk dir e)
  | .ok place =>
    match t.node? place with
    | some .directory => .ok ((t.listing place dir).filter (isSource patterns))
    | _               => .ok []

def parsePatterns (ignore : List String) : Except Failure (List Glob) :=
  ignore.mapM fun pattern => (Glob.parse pattern).mapError .pattern

def findSources (t : FileTree) (dir : FilePath) (ignore : List String) :
    Except Failure (List SourceEntry) := do
  t.sourceEntries dir (← parsePatterns ignore)

-- Reads the source files of a directory. Only a directory that cannot be listed is a failure.
def discover (t : FileTree) (dir : FilePath) (ignore : List String) :
    Except Failure (Collecting SourceTree) := do
  match t.find dir with
  | .error e =>
    throw (.fileSystem "cannot access source directory" dir (some e))
  | .ok (.file _) | .ok (.locked _) =>
    throw (.fileSystem "source path is not a directory" dir none)
  | .ok .directory =>
    let entries ← t.findSources dir ignore
    return do
      let files ← SourceEntry.readAll entries
      SourceTree.ofSources t.packageName files

end FileTree
end CollectionPlan
