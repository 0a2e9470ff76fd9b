import CollectionPlan.Plan.TypePlan
import CollectionPlan.Proofs.Planning.Candidates

namespace CollectionPlan

-- A method has a template, and the traits are all that the template demands.
def Catalog.approves (c : Catalog) (traits : Traits) (method : String) : Bool :=
  (c.template? method).any (·.isSatisfiedBy traits)

namespace TypePlan

open Collecting

variable {u : Universe} {d : Directive} {methods : List String} {kind method : String}

-- The standard methods that the annotated type is capable of.
def approvedStandard (u : Universe) (d : Directive) (methods : List String) : List String :=
  match u.resolve d.name with
  | .ok handle => methods.filter (Catalog.standard.approves (u.traits handle))
  | .error _   => []

-- A target that does not resolve is comparable and nothing more.
def traitsOf (u : Universe) (target : String) : Traits :=
  match u.resolve target with
  | .ok handle => u.traits handle
  | .error _   => { numeric := false, comparable := true, ordered := false }

-- The projections that a target is capable of.
def approvedFor (u : Universe) (methods : List String) (target : String) : List Projection :=
  (methods.filter (Catalog.projection.approves (traitsOf u target))).map ({ method := ·, target })

def subjectFindings (u : Universe) (d : Directive) : List Diagnostic :=
  match u.resolve d.name with
  | .ok _    => []
  | .error e => [⟨.unresolvedType, d.name, s!"failed to evaluate type {d.name} ({e.message})"⟩]

def targetFindings (u : Universe) (d : Directive) (target : String) : List Diagnostic :=
  match u.resolve target with
  | .ok _    => []
  | .error e =>
    [⟨.unresolvedType, d.name,
      s!"unable to identify type {target}, projected on {d.name} ({e.message})"⟩]

-- What is wrong with the directive, then with the type, then with each of the targets.
def findings (u : Universe) (d : Directive) : List Diagnostic :=
  Candidates.findings d ++ (subjectFindings u d ++ (targetsOf d).flatMap (targetFindings u d))

theorem yields_approve (h : catalog.has method) :
    (approve catalog kind d traits add plan method).Yields
      (if catalog.approves traits method then add plan method else plan) [] := by
  have ⟨template, ht⟩ := Option.isSome_iff_exists.mp h
  simp only [approve, Catalog.approves, ht, Option.any_some]
  exact .pure _

-- All methods of a catalog have a template, so that nothing is left to report.
theorem yields_approveAll {add : TypePlan → String → TypePlan} (h : ∀ method ∈ methods, catalog.has method) :
    (methods.foldlM (approve catalog kind d traits add) plan).Yields
      ((methods.filter (catalog.approves traits)).foldl add plan) [] := by
  rw [List.foldl_filter]
  exact .of_eq (.foldlM fun _ method hm => yields_approve (h method hm)) (by simp)

theorem foldl_addStandard {plan : TypePlan} :
    methods.foldl addStandard plan = { plan with standardMethods := plan.standardMethods ++ methods } := by
  induction methods generalizing plan <;> simp_all [addStandard]

theorem foldl_addProjection {plan : TypePlan} :
    methods.foldl (addProjection · · target) plan =
      { plan with projections := plan.projections ++ methods.map ({ method := ·, target }) } := by
  induction methods generalizing plan <;> simp_all [addProjection]

theorem yields_planStandard {p : TypePlan} (h : ∀ method ∈ methods, Catalog.standard.has method) :
    (planStandard u d methods p).Yields
      { p with standardMethods := p.standardMethods ++ approvedStandard u d methods }
      (subjectFindings u d) := by
  unfold planStandard approvedStandard subjectFindings
  cases u.resolve d.name
  case ok handle =>
    rw [←foldl_addStandard]
    exact yields_approveAll h
  case error e =>
    simp only [List.append_nil]
    exact Yields.report.bind (.pure p)

theorem yields_targetTraits : (targetTraits u d target).Yields (traitsOf u target) (targetFindings u d target) := by
  unfold targetTraits traitsOf targetFindings
  cases u.resolve target
  case ok handle => exact .pure _
  case error e   => exact Yields.report.bind (.pure _)

theorem yields_planTarget {plan : TypePlan} (h : ∀ method ∈ methods, Catalog.projection.has method) :
    (planTarget u d methods plan target).Yields
      { plan with projections := plan.projections ++ approvedFor u methods target }
      (targetFindings u d target) := by
  unfold approvedFor
  rw [←foldl_addProjection]
  exact .of_eq (yields_targetTraits.bind <| yields_approveAll h) (List.append_nil _)

theorem foldl_projections {targets : List String} {plan : TypePlan} {f : String → List Projection} :
    targets.foldl (fun plan target => { plan with projections := plan.projections ++ f target }) plan =
      { plan with projections := plan.projections ++ targets.flatMap f } := by
  induction targets generalizing plan <;> simp_all

theorem yields_planTargets {s : List String} {p : TypePlan}
    (h : ∀ method ∈ methods, Catalog.projection.has method) :
    (s.foldlM (planTarget u d methods) p).Yields
      { p with projections := p.projections ++ s.flatMap (approvedFor u methods) }
      (s.flatMap (targetFindings u d)) := by
  rw [←foldl_projections]
  exact .foldlM fun _ _ _ => yields_planTarget h

-- The plan for the methods that are selected and approved.
def planned (package : String) (d : Directive) (standard : List String) (projections : List Projection) :
    TypePlan where
  package              := package
  name                 := d.name
  pointer              := d.pointer
  standardMethods      := standard
  projections          := projections
  requirements         := supportOf standard projections
  requiresExtendedSort := needsExtendedSort standard

theorem yields_ofDirective {package : String} : (ofDirective package d u).Yields
    (planned package d (approvedStandard u d (Candidates.selected d).standard)
      ((targetsOf d).flatMap (approvedFor u (Candidates.selected d).projection)))
    (findings u d) := by
  have hs := yields_planStandard (u := u) (d := d) (p := new package d)
    fun _ => Candidates.has_of_mem_standard (d := d)
  have ht := fun p => yields_planTargets (u := u) (d := d) (s := targetsOf d) (p := p)
    fun _ => Candidates.has_of_mem_projection (d := d)
  refine .of_eq (Candidates.yields_ofDirective.bind <| hs.bind <| (ht _).bind <| .pure _) ?_
  rw [List.append_nil, findings]

theorem ne_unknownCandidate (h : text.toList[2]? ≠ some 'k') : text ≠ s!"unknown {kind} method {method}" := by
  rintro rfl
  simp [toString] at h

-- Nothing that is reported tells of a candidate without a template.
theorem message_of_mem_findings (h : x ∈ Candidates.findings d) :
    x.message ≠ s!"unknown {kind} method {method}" := by
  apply ne_unknownCandidate
  obtain ⟨method, rfl⟩ | rfl := Candidates.eq_of_mem_findings h
  · simp [Candidates.unknownMethod, toString]
  · simp [Candidates.targetsWithoutMethods, toString]

theorem message_of_mem_subjectFindings (h : x ∈ subjectFindings u d) :
    x.message ≠ s!"unknown {kind} method {method}" := by
  apply ne_unknownCandidate
  unfold subjectFindings at h
  split at h <;> simp_all [toString]

theorem message_of_mem_targetFindings (h : x ∈ targetFindings u d target) :
    x.message ≠ s!"unknown {kind} method {method}" := by
  apply ne_unknownCandidate
  unfold targetFindings at h
  split at h <;> simp_all [toString]

-- A plan holds what the candidates of its directive are capable of, on the type itself and on each
-- target. What was found before stays, and no finding is about a candidate without a template.
theorem exact_plan {package : String} :
    (Candidates.ofDirective d).Yields (Candidates.selected d) (Candidates.findings d) ∧
    (ofDirective package d u).Yields
      (planned package d (approvedStandard u d (Candidates.selected d).standard)
        ((targetsOf d).flatMap (approvedFor u (Candidates.selected d).projection)))
      (findings u d) ∧
    ∀ x ∈ findings u d, ∀ kind method : String, x.message ≠ s!"unknown {kind} method {method}" := by
  refine ⟨Candidates.yields_ofDirective, yields_ofDirective, ?_⟩
  intro x hx kind method
  rw [findings, List.mem_append, List.mem_append, List.mem_flatMap] at hx
  rcases hx with hc | hs | ⟨target, _, ht⟩
  · exact message_of_mem_findings hc
  · exact message_of_mem_subjectFindings hs
  · exact message_of_mem_targetFindings ht

end TypePlan
end CollectionPlan
