import CollectionPlan.FilePath

namespace CollectionPlan

-- Why an operation on a file is refused.
inductive IoError
  | notFound
  | notDirectory
  | isDirectory
  | notText
  | denied
  | other (message : String)
deriving DecidableEq, Repr

def IoError.message : IoError → String
  | notFound      => "No such file or directory (os error 2)"
  | notDirectory  => "Not a directory (os error 20)"
  | isDirectory   => "Is a directory (os error 21)"
  | notText       => "stream did not contain valid UTF-8"
  | denied        => "Permission denied (os error 13)"
  | other message => message

inductive Node
  | directory
  | file (content : ByteArray)
  -- A file that cannot be opened.
  | locked (error : IoError)

namespace Node

def isFile : Node → Bool
  | directory         => false
  | file _ | locked _ => true

def text : Node → Except IoError String
  | directory    => .error .isDirectory
  | file content => (String.fromUTF8? content).elim (.error .notText) .ok
  | locked error => .error error

end Node

-- Where a node is: the names that lead to it from the root.
abbrev Place := List String

-- Directories and files, at most one at a place. The root is always there.
structure FileTree where
  nodes      : List (Place × Node)
  workingDir : Place
  nodup      : (nodes.map (·.1)).Nodup

namespace FileTree

def node? (t : FileTree) (place : Place) : Option Node :=
  if place = [] then some .directory else t.nodes.lookup place

def erase (t : FileTree) (place : Place) : FileTree where
  nodes      := t.nodes.filter (·.1 != place)
  workingDir := t.workingDir
  nodup      := t.nodup.sublist (List.filter_sublist.map _)

def put (t : FileTree) (place : Place) (node : Node) : FileTree where
  nodes      := (place, node) :: (t.erase place).nodes
  workingDir := t.workingDir
  nodup      := List.nodup_cons.mpr ⟨by simp [erase], (t.erase place).nodup⟩

theorem lookup_filter_ne {nodes : List (Place × Node)} (h : other ≠ place) :
    (nodes.filter (·.1 != place)).lookup other = nodes.lookup other := by
  induction nodes with
  | nil => rfl
  | cons n ns ih =>
    obtain ⟨key, node⟩ := n
    by_cases hk : key = place
    · have : (other == place) = false := by simpa using h
      simp [hk, this, ih, List.lookup_cons]
    · simp [hk, ih, List.lookup_cons]

theorem node?_put {t : FileTree} (h : place ≠ []) :
    (t.put place node).node? other = if other = place then some node else t.node? other := by
  by_cases ho : other = []
  · simp [node?, ho, Ne.symm h]
  · by_cases hp : other = place
    · simp [node?, put, hp, h]
    · have : (other == place) = false := by simpa using hp
      simp [node?, put, erase, ho, hp, this, List.lookup_cons, lookup_filter_ne hp]

-- The names and the nodes right inside of a directory.
def entries (t : FileTree) (place : Place) : List (String × Node) :=
  t.nodes.filterMap fun (other, node) => if other ≠ [] ∧ other.dropLast = place then
    other.getLast?.map fun name => (name, node) else none

-- Looking up.

-- The steps of a path that are written out.
def writtenSteps (p : FilePath) : List (List Char) :=
  p.steps.filter (· ≠ [])

-- The steps of a path; a slash at its end stays where it is.
def stepsOf (p : FilePath) : List (List Char) :=
  writtenSteps p ++ if p.endsWithSlash then [['.']] else []

def start (t : FileTree) (p : FilePath) : Place :=
  if p.toList.head? = some '/' then [] else t.workingDir

def next (place : Place) (step : List Char) : Place :=
  if step = ['.'] then place
  else if step = ['.', '.'] then place.dropLast
  else place ++ [String.ofList step]

-- All the places that steps lead to, one after the other.
def placesFrom (place : Place) : List (List Char) → List Place
  | []            => []
  | step :: steps => next place step :: placesFrom (next place step) steps

-- Every step starts in a directory and leads to something that is there.
def walk (t : FileTree) (place : Place) : List (List Char) → Except IoError Place
  | []            => .ok place
  | step :: steps =>
    match t.node? place, t.node? (next place step) with
    | some .directory, some _ => t.walk (next place step) steps
    | some .directory, none   => .error .notFound
    | some _, _               => .error .notDirectory
    | none, _                 => .error .notFound

def locate (t : FileTree) (p : FilePath) : Except IoError Place :=
  if p.isEmpty then .error .notFound else t.walk (t.start p) (stepsOf p)

def find (t : FileTree) (p : FilePath) : Except IoError Node := do
  let place ← t.locate p
  (t.node? place).elim (.error .notFound) .ok

def contains (t : FileTree) (p : FilePath) : Bool :=
  (t.find p).toOption.isSome

def isFile (t : FileTree) (p : FilePath) : Bool :=
  (t.find p).toOption.any (·.isFile)

def readText (t : FileTree) (p : FilePath) : Except IoError String := do
  (← t.find p).text

def pathOf (place : Place) : FilePath :=
  "/" ++ "/".intercalate place

def workingPath (t : FileTree) : FilePath :=
  pathOf t.workingDir

-- The path from the root to what a path leads to.
def realPath? (t : FileTree) (p : FilePath) : Option FilePath :=
  (t.locate p).toOption.map pathOf

-- Changing.

def isName (step : List Char) : Bool :=
  step ≠ ['.'] && step ≠ ['.', '.']

-- The place that a file can be written to. Its directory has to be there, the file does not. A path that
-- can only name a directory is refused, but not before this directory is found.
def target (t : FileTree) (p : FilePath) : Except IoError Place :=
  match (writtenSteps p).getLast? with
  | none      => .error (if p.isEmpty then .notFound else .isDirectory)
  | some step => do
    let dir ← t.walk (t.start p) (writtenSteps p).dropLast
    match t.node? dir with
    | some .directory =>
      if !isName step || p.endsWithSlash then .error .isDirectory
      else match t.node? (next dir step) with
        | some .directory      => .error .isDirectory
        | some (.locked error) => .error error
        | _                    => .ok (next dir step)
    | some _          => .error .notDirectory
    | none            => .error .notFound

def write (t : FileTree) (p : FilePath) (text : String) : Except IoError FileTree := do
  return t.put (← t.target p) (.file text.toUTF8)

-- Removes a file, if there is one.
def remove? (t : FileTree) (p : FilePath) : Option FileTree := do
  let place ← (t.locate p).toOption
  if (t.node? place).any (·.isFile) then some (t.erase place) else none

-- Building.

def makeDirectory (t : FileTree) (place : Place) : FileTree :=
  match t.node? place with
  | some _ => t
  | none   => t.put place .directory

-- The places on the way to a place, and the place.
def waypoints : Place → List Place
  | []            => []
  | name :: names => [name] :: (waypoints names).map (name :: ·)

-- Makes a place and all directories above it.
def makeDirectories (t : FileTree) (place : Place) : FileTree :=
  (waypoints place).foldl makeDirectory t

def empty (place : Place) : FileTree where
  nodes      := []
  workingDir := place
  nodup      := .nil

-- A tree with nothing but a working directory.
def ofWorkingDir (place : Place) : FileTree :=
  (empty place).makeDirectories place

-- Where a path leads if nothing stands in the way.
def placeOf (t : FileTree) (p : FilePath) : Place :=
  (stepsOf p).foldl next (t.start p)

def addDirectory (t : FileTree) (p : FilePath) : FileTree :=
  t.makeDirectories (t.placeOf p)

def addFile (t : FileTree) (p : FilePath) (content : ByteArray) : FileTree :=
  (t.makeDirectories (t.placeOf p).dropLast).put (t.placeOf p) (.file content)

end FileTree
end CollectionPlan
