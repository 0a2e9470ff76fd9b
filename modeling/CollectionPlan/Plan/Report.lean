import CollectionPlan.Plan.TypePlan

namespace CollectionPlan

-- The plans of the selected types of a package.
structure PackagePlan where
  name  : String
  types : List TypePlan
deriving DecidableEq, Repr

structure Report where
  packages    : List PackagePlan
  diagnostics : List Diagnostic
deriving DecidableEq, Repr

namespace Report

def types (r : Report) : List TypePlan :=
  r.packages.flatMap (·.types)

def typeCount (r : Report) : Nat :=
  r.types.length

def find? (r : Report) (name : String) : Option TypePlan :=
  r.types.find? (·.name = name)

end Report
end CollectionPlan
