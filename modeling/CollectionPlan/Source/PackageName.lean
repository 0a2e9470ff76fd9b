import CollectionPlan.FileTree

namespace CollectionPlan

-- Files with these stems are named after the directory that they are in.
def rootStems : List String :=
  ["lib", "main", "mod"]

namespace FileTree

-- The name of a directory, which its path need not end with.
def directoryName? (t : FileTree) (dir : FilePath) : Option String :=
  ((t.realPath? dir).getD dir).fileName?

-- The name of the package that a source file makes up.
def packageName (t : FileTree) (p : FilePath) : String :=
  let stem := p.stem?.getD ""
  if rootStems.contains stem then (p.parent?.bind t.directoryName?).getD stem else stem

end FileTree
end CollectionPlan
