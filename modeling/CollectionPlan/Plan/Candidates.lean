import CollectionPlan.Catalog
import CollectionPlan.Diagnostic
import CollectionPlan.Directive

namespace CollectionPlan

-- The methods that a directive asks for, before any look at the capabilities of a type.
structure Candidates where
  standard   : List String := []
  projection : List String := []
deriving DecidableEq, Repr

namespace Candidates

-- A projection method is one only beside a list of targets, which may be empty.
def isProjection (d : Directive) (method : String) : Bool :=
  d.projections.isSome && Catalog.projection.has method

def add (d : Directive) (method : String) (c : Candidates) : Candidates where
  standard   := if Catalog.standard.has method then method :: c.standard else c.standard
  projection := if isProjection d method then method :: c.projection else c.projection

-- A name can be a method of both kinds; a name that is of neither kind is unknown.
def ofNames (d : Directive) : List String → Collecting Candidates
  | []                => return {}
  | method :: methods => do
    if !Catalog.standard.has method && !isProjection d method then
      .report .unknownMethod d.name s!"method {method} is unknown (type {d.name})"
    let c ← ofNames d methods
    return c.add d method

def hasTargets (d : Directive) : Bool :=
  d.projections.any fun targets => !targets.items.isEmpty

-- Targets and projection methods are of no use without each other.
def check (d : Directive) (c : Candidates) : Collecting Unit := do
  if hasTargets d && c.projection.isEmpty then
    .report .inconsistentConfiguration d.name
      s!"you've included projection types without specifying projection methods on type {d.name}"
  if !c.projection.isEmpty && d.projections.isNone then
    .report .inconsistentConfiguration d.name
      s!"you've included projection methods without specifying projection types on type {d.name}"

-- Without a list of methods every method is a candidate.
def all (d : Directive) : Candidates where
  standard   := Catalog.standard.names
  projection := if d.projections.isSome then Catalog.projection.names else []

def ofDirective (d : Directive) : Collecting Candidates := do
  match d.methods with
  | none         => return all d
  | some methods => do
    let c ← ofNames d methods.items
    c.check d
    return c

end Candidates
end CollectionPlan
