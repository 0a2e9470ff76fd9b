import CollectionPlan.Config.Basic
import CollectionPlan.Plan.Tree
import CollectionPlan.Source.Discovery

namespace CollectionPlan

def SourceTree.report (tree : Collecting SourceTree) (legacyCheck : Bool) : Report :=
  let (packages, ds) := (do (← tree).plan legacyCheck).run {}
  { packages, diagnostics := ds.items }

-- Plans the annotated types of a directory. The settings are checked before anything is read.
def FileTree.planDirectory (t : FileTree) (dir : FilePath) (c : Config) : Except Failure Report := do
  discard c.patterns
  return SourceTree.report (← t.discover dir c.ignore) c.legacyTagCheck

end CollectionPlan
