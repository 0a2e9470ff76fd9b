import CollectionPlan.Text.Line

namespace CollectionPlan

-- A path as it is written. Steps are parted by slashes.
abbrev FilePath := String

namespace FilePath

inductive Component
  | root
  | here
  | up
  | name (text : String)
deriving DecidableEq, Repr

def Component.text : Component → String
  | root      => "/"
  | here      => "."
  | up        => ".."
  | name text => text

-- Steps that are no component: none at all, and one that stays where it is.
def component? (step : List Char) : Option Component :=
  if step = [] || step = ['.'] then none
  else if step = ['.', '.'] then some .up
  else some (.name (String.ofList step))

def steps (p : FilePath) : List (List Char) :=
  Text.splitAt (· = '/') p.toList

def endsWithSlash (p : FilePath) : Bool :=
  p.toList.getLast? = some '/'

-- The components of a path. Only at the start of a relative path a single dot is one of them.
def components (p : FilePath) : List Component :=
  let names := p.steps.filterMap component?
  if p.toList.head? = some '/' then .root :: names
  else if p.steps.head? = some ['.'] then .here :: names
  else names

-- The shortest path with these components.
def ofComponents : List Component → FilePath
  | .root :: cs => "/" ++ "/".intercalate (cs.map (·.text))
  | cs          => "/".intercalate (cs.map (·.text))

-- The name at the end of a path, if it ends with one.
def fileName? (p : FilePath) : Option String :=
  match p.components.getLast? with
  | some (.name text) => some text
  | _                 => none

def parent? (p : FilePath) : Option FilePath :=
  match p.components.getLast? with
  | none | some .root => none
  | _                 => some (ofComponents p.components.dropLast)

-- A path and its parents, nearest first.
def ancestors (p : FilePath) : List FilePath :=
  p :: (above p.components.reverse).map fun cs => ofComponents cs.reverse
where
  above : List Component → List (List Component)
    | [] | [.root] => []
    | _ :: cs      => cs :: above cs

def join (dir : FilePath) (name : String) : FilePath :=
  if dir.isEmpty || dir.endsWithSlash then dir ++ name else dir ++ "/" ++ name

-- What is before and behind the last dot of a name. A dot at its start is part of the name.
def splitDot (name : List Char) : List Char × Option (List Char) :=
  let behind := name.reverse.takeWhile (· ≠ '.')
  let before := (name.reverse.dropWhile (· ≠ '.')).tail
  if before.isEmpty then (name, none) else (before.reverse, some behind.reverse)

def stem? (p : FilePath) : Option String :=
  p.fileName?.map fun name => String.ofList (splitDot name.toList).1

def extension? (p : FilePath) : Option String := do
  let name ← p.fileName?
  let behind ← (splitDot name.toList).2
  return String.ofList behind

end FilePath
end CollectionPlan
