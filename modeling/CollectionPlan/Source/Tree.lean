import CollectionPlan.Diagnostic
import CollectionPlan.TypeModel

namespace CollectionPlan

-- A declaration of a type as the planner sees it: annotated or not, in the file that holds it.
structure DeclaredType where
  name : String
  doc  : String
  file : String
deriving DecidableEq, Repr

-- The types of a package, ordered by their names.
structure SourcePackage where
  name  : String
  types : List DeclaredType
deriving DecidableEq, Repr

structure SourceTree where
  packages : List SourcePackage
  model    : TypeModel

-- The content of a file that could be read.
structure SourceFile where
  path : String
  text : String
deriving DecidableEq, Repr

-- A file with all of its items.
structure ParsedFile where
  path  : String
  items : List (Option TypeItem)
deriving Repr

-- An item as the planner sees it. The kinds of items that it sees are listed here once more, whatever
-- `TypeItem.lower?` does with them.
def DeclaredType.ofItem? (file : String) : Option TypeItem → Option DeclaredType
  | none   => none
  | some i =>
    match i.body with
    | .alias _ | .struct _ | .enum _ => some { name := i.name, doc := i.doc, file }

namespace SourceFile

def parse? (f : SourceFile) : Option ParsedFile :=
  match Grammar.items f.text with
  | .ok items => some { path := f.path, items }
  | .error _  => none

def parseFailure (f : SourceFile) : String :=
  s!"failed to parse {f.path} (<syntax>)"

-- A file that does not parse leaves a finding and nothing else.
def parseAll : List SourceFile → Collecting (List ParsedFile)
  | []      => return []
  | f :: fs => do
    match f.parse? with
    | some p =>
      let ps ← parseAll fs
      return p :: ps
    | none   =>
      .note .parseFailure f.parseFailure
      parseAll fs

end SourceFile

namespace ParsedFile

def types (p : ParsedFile) : List DeclaredType :=
  p.items.filterMap (DeclaredType.ofItem? p.path)

end ParsedFile

namespace SourcePackage

-- Puts a name at its place among ordered names, unless it is there.
def insertName (name : String) : List String → List String
  | []      => [name]
  | n :: ns =>
    if name < n then name :: n :: ns
    else if name = n then n :: ns
    else n :: insertName name ns

def orderedNames (names : List String) : List String :=
  names.foldr insertName []

def ofFiles (packageOf : String → String) (files : List ParsedFile) (name : String) :
    SourcePackage where
  name  := name
  types := ((files.filter fun p => packageOf p.path = name).flatMap (·.types)).mergeSort
    fun a b => a.name ≤ b.name

end SourcePackage

namespace SourceTree

def ofFiles (packageOf : String → String) (files : List ParsedFile) : SourceTree where
  packages := (SourcePackage.orderedNames (files.map fun p => packageOf p.path)).map
    (SourcePackage.ofFiles packageOf files)
  model    := files.foldl (fun m p => m.declareItems p.items) .empty

-- The packages of some sources, with one model for all of them: what one file declares can be
-- referred to in each of the others.
def ofSources (packageOf : String → String) (sources : List SourceFile) : Collecting SourceTree := do
  let files ← SourceFile.parseAll sources
  return ofFiles packageOf files

def types (t : SourceTree) : List DeclaredType :=
  t.packages.flatMap (·.types)

end SourceTree
end CollectionPlan
