import CollectionPlan.Plan.Candidates
import CollectionPlan.Plan.Requirements
import CollectionPlan.Universe

namespace CollectionPlan

-- An approved method for a target type.
structure Projection where
  method : String
  target : String
deriving DecidableEq, Repr

def Projection.methodName (p : Projection) : String :=
  p.method ++ p.target

-- What to generate for an annotated type.
structure TypePlan where
  package             : String
  name                : String
  pointer             : Bool
  standardMethods     : List String := []
  projections         : List Projection := []
  requirements        : Requirements := {}
  requiresExtendedSort : Bool := false
deriving DecidableEq, Repr

namespace TypePlan

def new (package : String) (d : Directive) : TypePlan where
  package := package
  name    := d.name
  pointer := d.pointer

def addStandard (plan : TypePlan) (method : String) : TypePlan :=
  { plan with standardMethods := plan.standardMethods ++ [method] }

def addProjection (plan : TypePlan) (method target : String) : TypePlan :=
  { plan with projections := plan.projections ++ [{ method, target }] }

def hasStandard (plan : TypePlan) (method : String) : Bool :=
  plan.standardMethods.contains method

def hasProjection (plan : TypePlan) (methodName : String) : Bool :=
  plan.projections.any (·.methodName = methodName)

-- The element type as generated code writes it.
def elementType (plan : TypePlan) : String :=
  if plan.pointer then "&" ++ plan.name else plan.name

def supportOf (standard : List String) (projections : List Projection) : Requirements :=
  .ofMethods (standard ++ projections.map (·.method))

-- Derives what the plan requires from the methods that it has by now.
def finalize (plan : TypePlan) : TypePlan :=
  { plan with
    requirements         := supportOf plan.standardMethods plan.projections
    requiresExtendedSort := needsExtendedSort plan.standardMethods }

@[simp]
theorem standardMethods_addStandard {plan : TypePlan} :
    (plan.addStandard method).standardMethods = plan.standardMethods ++ [method] :=
  rfl

@[simp]
theorem projections_addStandard {plan : TypePlan} :
    (plan.addStandard method).projections = plan.projections :=
  rfl

@[simp]
theorem standardMethods_addProjection {plan : TypePlan} :
    (plan.addProjection method target).standardMethods = plan.standardMethods :=
  rfl

@[simp]
theorem projections_addProjection {plan : TypePlan} :
    (plan.addProjection method target).projections = plan.projections ++ [⟨method, target⟩] :=
  rfl

@[simp]
theorem standardMethods_finalize {plan : TypePlan} :
    plan.finalize.standardMethods = plan.standardMethods :=
  rfl

@[simp]
theorem projections_finalize {plan : TypePlan} : plan.finalize.projections = plan.projections :=
  rfl

-- Whether a method is approved hangs on the capabilities that its template demands.
def approve (catalog : Catalog) (kind : String) (d : Directive) (traits : Traits)
    (add : TypePlan → String → TypePlan) (plan : TypePlan) (method : String) :
    Collecting TypePlan := do
  match catalog.template? method with
  | some template => return if template.isSatisfiedBy traits then add plan method else plan
  | none          =>
    .report .unknownMethod d.name s!"unknown {kind} method {method}"
    return plan

def approveStandard (d : Directive) (traits : Traits) : TypePlan → String → Collecting TypePlan :=
  approve .standard "standard" d traits addStandard

def approveProjection (d : Directive) (target : String) (traits : Traits) :
    TypePlan → String → Collecting TypePlan :=
  approve .projection "projection" d traits (addProjection · · target)

-- Standard methods are gated on the annotated type; one that does not resolve gets none.
def planStandard (u : Universe) (d : Directive) (methods : List String) (plan : TypePlan) :
    Collecting TypePlan := do
  match u.resolve d.name with
  | .ok handle => methods.foldlM (approveStandard d (u.traits handle)) plan
  | .error e   =>
    .report .unresolvedType d.name s!"failed to evaluate type {d.name} ({e.message})"
    return plan

def targetTraits (u : Universe) (d : Directive) (target : String) : Collecting Traits := do
  match u.resolve target with
  | .ok handle => return u.traits handle
  | .error e   =>
    .report .unresolvedType d.name
      s!"unable to identify type {target}, projected on {d.name} ({e.message})"
    return .unresolvedTarget

-- Projection methods are gated on each target on its own.
def planTarget (u : Universe) (d : Directive) (methods : List String) (plan : TypePlan)
    (target : String) : Collecting TypePlan := do
  let traits ← targetTraits u d target
  methods.foldlM (approveProjection d target traits) plan

def targetsOf (d : Directive) : List String :=
  d.projections.elim [] (·.items)

-- The plan of one annotated type. Nothing stops it: what is left out leaves a finding.
def ofDirective (package : String) (d : Directive) (u : Universe) : Collecting TypePlan := do
  let candidates ← Candidates.ofDirective d
  let plan ← planStandard u d candidates.standard (new package d)
  let plan ← (targetsOf d).foldlM (planTarget u d candidates.projection) plan
  return plan.finalize

end TypePlan
end CollectionPlan
