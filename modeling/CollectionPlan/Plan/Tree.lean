import CollectionPlan.Plan.LegacyTag
import CollectionPlan.Plan.Report
import CollectionPlan.Source.Tree

namespace CollectionPlan

namespace DeclaredType

-- A type that does not resolve has no fields to check.
def checkLegacy (m : TypeModel) (t : DeclaredType) : Collecting Unit := do
  match m.resolve t.name with
  | .ok handle => LegacyTag.check m.toUniverse handle t.name
  | .error _   => return

-- A type is planned if its documentation holds a directive.
def plan? (m : TypeModel) (package : String) (t : DeclaredType) : Collecting (Option TypePlan) := do
  match Directive.ofDoc? t.doc t.name with
  | some d => return some (← TypePlan.ofDirective package d m.toUniverse)
  | none   => return none

def process (m : TypeModel) (legacyCheck : Bool) (package : String) (t : DeclaredType) :
    Collecting (Option TypePlan) := do
  if legacyCheck then t.checkLegacy m
  t.plan? m package

end DeclaredType

namespace PackagePlan

def planTypes (m : TypeModel) (legacyCheck : Bool) (package : String) :
    List DeclaredType → Collecting (List TypePlan)
  | []      => return []
  | t :: ts => do
    let plan? ← t.process m legacyCheck package
    let plans ← planTypes m legacyCheck package ts
    return plan?.toList ++ plans

-- A package without a planned type is left out.
def planPackages (m : TypeModel) (legacyCheck : Bool) :
    List SourcePackage → Collecting (List PackagePlan)
  | []      => return []
  | p :: ps => do
    let types ← planTypes m legacyCheck p.name p.types
    let plans ← planPackages m legacyCheck ps
    return if types.isEmpty then plans else { name := p.name, types } :: plans

end PackagePlan

-- Plans every annotated type of a tree.
def SourceTree.plan (t : SourceTree) (legacyCheck : Bool) : Collecting (List PackagePlan) :=
  PackagePlan.planPackages t.model legacyCheck t.packages

end CollectionPlan
