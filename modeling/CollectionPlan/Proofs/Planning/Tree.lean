import CollectionPlan.Plan.Tree
import CollectionPlan.Proofs.Directive.Reading
import CollectionPlan.Proofs.Planning.TypePlan
import CollectionPlan.Proofs.Source.Parsing
import Mathlib.Data.List.Forall2

namespace CollectionPlan

open Collecting

namespace LegacyTag

def finding (type : String) (field : FieldTag) : Diagnostic where
  kind     := .deprecated
  typeName := type
  message  := message field

def findings (u : Universe) (handle : u.Handle) (type : String) : List Diagnostic :=
  ((u.fields handle).filter (has ·.rawTag)).map (finding type)

theorem yields_check {u : Universe} {handle : u.Handle} :
    (check u handle type).Yields () (findings u handle type) :=
  .of_eq (.forM fun _ => .report) (List.flatMap_pure_eq_map ..)

end LegacyTag

-- The plan that a directive leads to.
def TypePlan.approved (u : Universe) (package : String) (d : Directive) : TypePlan :=
  planned package d (approvedStandard u d (Candidates.selected d).standard)
    ((targetsOf d).flatMap (approvedFor u (Candidates.selected d).projection))

namespace DeclaredType

variable {u : Universe} {m : TypeModel} {legacyCheck : Bool} {package : String}
variable {t : DeclaredType} {ts : List DeclaredType}

-- The first line of the documentation that starts with the marker.
def directiveLine? (t : DeclaredType) : Option (List Char) :=
  (Text.lines t.doc.toList).find? Directive.isDirectiveLine

def isSelected (t : DeclaredType) : Bool :=
  (Text.lines t.doc.toList).any Directive.isDirectiveLine

def directive? (t : DeclaredType) : Option Directive :=
  t.directiveLine?.map (Directive.ofLine t.name)

def planned? (u : Universe) (package : String) (t : DeclaredType) : Option TypePlan :=
  t.directive?.map (.approved u package)

-- The fields of a type with an attribute that has no effect any more.
def legacyFindings (u : Universe) (t : DeclaredType) : List Diagnostic :=
  match u.resolve t.name with
  | .ok handle => LegacyTag.findings u handle t.name
  | .error _   => []

def planFindings (u : Universe) (t : DeclaredType) : List Diagnostic :=
  t.directive?.elim [] (TypePlan.findings u)

def findings (u : Universe) (legacyCheck : Bool) (t : DeclaredType) : List Diagnostic :=
  (if legacyCheck then t.legacyFindings u else []) ++ t.planFindings u

theorem isSome_planned? : (t.planned? u package).isSome = t.isSelected := by
  rw [planned?, directive?, Option.isSome_map, Option.isSome_map, directiveLine?, List.isSome_find?]
  rfl

theorem yields_checkLegacy : (t.checkLegacy m).Yields () (t.legacyFindings m.toUniverse) := by
  have hr : m.toUniverse.resolve t.name = m.resolve t.name := rfl
  unfold checkLegacy legacyFindings
  rw [hr]
  cases m.resolve t.name
  case ok handle => exact LegacyTag.yields_check
  case error     => exact .pure _

theorem yields_plan? : (t.plan? m package).Yields (t.planned? m.toUniverse package)
    (t.planFindings m.toUniverse) := by
  have hd : Directive.ofDoc? t.doc t.name = t.directive? := rfl
  unfold plan? planned? planFindings
  rw [hd]
  cases t.directive?
  case none   => exact .pure _
  case some d => exact .of_eq (TypePlan.yields_ofDirective.bind <| .pure _) (List.append_nil _)

theorem yields_process : (t.process m legacyCheck package).Yields (t.planned? m.toUniverse package)
    (t.findings m.toUniverse legacyCheck) :=
  Yields.runIf (f := fun _ => t.plan? m package) yields_checkLegacy yields_plan?

-- A plan of a type: what is planned for it on its own.
structure IsPlannedAs (m : TypeModel) (legacyCheck : Bool) (package : String) (t : DeclaredType)
    (plan : TypePlan) : Prop where
  name_eq    : plan.name = t.name
  package_eq : plan.package = package
  pointer_eq : ∃ line, t.directiveLine? = some line ∧ plan.pointer = Directive.isPointerLine line
  alone      : ((t.process m legacyCheck package).run {}).fst = some plan

theorem isPlannedAs_of_planned? (h : t.planned? m.toUniverse package = some plan) :
    t.IsPlannedAs m legacyCheck package plan := by
  have ⟨d, hd, hp⟩ := Option.map_eq_some_iff.mp h
  have ⟨line, hl, hd⟩ := Option.map_eq_some_iff.mp hd
  subst hd hp
  exact {
    name_eq    := Directive.name_ofLine
    package_eq := rfl
    pointer_eq := ⟨line, hl, Directive.pointer_ofLine⟩
    alone      := by rw [yields_process.run_alone, h] }

theorem forall₂_planned? : List.Forall₂ (IsPlannedAs m legacyCheck package)
    (ts.filter (·.isSelected)) (ts.filterMap (·.planned? m.toUniverse package)) := by
  induction ts
  case nil => exact .nil
  case cons t ts ih =>
    have hs : (t.planned? m.toUniverse package).isSome = t.isSelected := isSome_planned?
    cases hp : t.planned? m.toUniverse package
    case none =>
      rw [hp] at hs
      rwa [List.filterMap_cons_none hp, List.filter_cons_of_neg (by simp [←hs])]
    case some plan =>
      rw [hp] at hs
      rw [List.filterMap_cons_some hp, List.filter_cons_of_pos (by simp [←hs])]
      exact .cons (isPlannedAs_of_planned? hp) ih

end DeclaredType

namespace PackagePlan

variable {u : Universe} {m : TypeModel} {legacyCheck : Bool} {package : String}
variable {ts : List DeclaredType} {p : SourcePackage} {ps : List SourcePackage} {q : PackagePlan}

def plannedTypes (u : Universe) (p : SourcePackage) : List TypePlan :=
  p.types.filterMap (·.planned? u p.name)

def planned? (u : Universe) (p : SourcePackage) : Option PackagePlan :=
  if (plannedTypes u p).isEmpty then none else some { name := p.name, types := plannedTypes u p }

theorem planned?_eq_some_iff : planned? u p = some q ↔
    plannedTypes u p ≠ [] ∧ q.name = p.name ∧ q.types = plannedTypes u p := by
  unfold planned?
  cases q
  cases hp : plannedTypes u p <;> simp [eq_comm]

theorem types_planned? : (planned? u p).elim [] (·.types) = plannedTypes u p := by
  unfold planned?
  cases hp : plannedTypes u p <;> rfl

theorem length_plannedTypes : (plannedTypes u p).length = p.types.countP (·.isSelected) := by
  simp only [plannedTypes, List.length_filterMap_eq_countP, DeclaredType.isSome_planned?]

theorem plannedTypes_ne_nil_iff : plannedTypes u p ≠ [] ↔ ∃ t ∈ p.types, t.isSelected = true := by
  rw [←List.length_pos_iff, length_plannedTypes, List.countP_pos_iff]

theorem yields_planTypes : (planTypes m legacyCheck package ts).Yields
    (ts.filterMap (·.planned? m.toUniverse package)) (ts.flatMap (·.findings m.toUniverse legacyCheck)) := by
  induction ts
  case nil => exact .pure _
  case cons t ts ih =>
    have hc : (t :: ts).filterMap (·.planned? m.toUniverse package) =
        (t.planned? m.toUniverse package).toList ++ ts.filterMap (·.planned? m.toUniverse package) := by
      cases hp : t.planned? m.toUniverse package <;> simp [hp]
    rw [hc]
    refine .of_eq (DeclaredType.yields_process.bind <| ih.bind <| .pure _) ?_
    rw [List.append_nil, List.flatMap_cons]

theorem yields_planPackages : (planPackages m legacyCheck ps).Yields (ps.filterMap (planned? m.toUniverse))
    (ps.flatMap (·.types.flatMap (·.findings m.toUniverse legacyCheck))) := by
  induction ps
  case nil => exact .pure _
  case cons p ps ih =>
    have hc : (p :: ps).filterMap (planned? m.toUniverse) =
        if (plannedTypes m.toUniverse p).isEmpty then ps.filterMap (planned? m.toUniverse)
        else ⟨p.name, plannedTypes m.toUniverse p⟩ :: ps.filterMap (planned? m.toUniverse) := by
      simp only [List.filterMap_cons, planned?]
      split <;> simp_all
    rw [hc]
    refine .of_eq (yields_planTypes.bind <| ih.bind <| .pure _) ?_
    rw [List.append_nil, List.flatMap_cons]

end PackagePlan

namespace SourceTree

open PackagePlan

variable {tree : SourceTree} {packageOf : String → String} {fs : List SourceFile} {legacyCheck : Bool}

-- The packages of a tree that have something to generate.
def planned (tree : SourceTree) : List PackagePlan :=
  tree.packages.filterMap (planned? tree.model.toUniverse)

def planFindings (tree : SourceTree) (legacyCheck : Bool) : List Diagnostic :=
  tree.types.flatMap (·.findings tree.model.toUniverse legacyCheck)

theorem yields_plan : (tree.plan legacyCheck).Yields tree.planned (tree.planFindings legacyCheck) :=
  .of_eq yields_planPackages List.flatMap_assoc.symm

theorem mem_planned_iff : q ∈ tree.planned ↔ ∃ p ∈ tree.packages,
    plannedTypes tree.model.toUniverse p ≠ [] ∧ q.name = p.name ∧
    q.types = plannedTypes tree.model.toUniverse p := by
  simp only [planned, List.mem_filterMap, planned?_eq_some_iff]

theorem pairwise_planned (h : (tree.packages.map (·.name)).Pairwise (· < ·)) :
    (tree.planned.map (·.name)).Pairwise (· < ·) := by
  rw [List.pairwise_map] at h ⊢
  refine List.pairwise_filterMap.mpr <| h.imp fun hlt q hq q' hq' => ?_
  have ⟨_, hn, _⟩  := planned?_eq_some_iff.mp hq
  have ⟨_, hn', _⟩ := planned?_eq_some_iff.mp hq'
  rwa [hn, hn']

theorem types_planned :
    tree.planned.flatMap (·.types) = tree.packages.flatMap (plannedTypes tree.model.toUniverse) := by
  unfold planned
  induction tree.packages
  case nil => rfl
  case cons p ps ih =>
    cases hp : planned? tree.model.toUniverse p <;> simp [hp, ih, ←types_planned?]

theorem length_planned : (tree.planned.flatMap (·.types)).length = tree.types.countP (·.isSelected) := by
  rw [types_planned, List.length_flatMap, types, List.countP_flatMap]
  simp [length_plannedTypes, Function.comp_def]

-- A package is planned if one of its files declares a selected type.
theorem mem_names_planned_iff : n ∈ (parsedTree packageOf fs).planned.map (·.name) ↔
    ∃ t ∈ SourceFile.typesIn packageOf fs n, t.isSelected = true := by
  simp only [List.mem_map, mem_planned_iff, plannedTypes_ne_nil_iff]
  constructor
  case mp =>
    rintro ⟨q, ⟨p, hp, ⟨t, ht, hs⟩, hq, _⟩, rfl⟩
    exact ⟨t, hq ▸ (orderedByName_types hp).perm.mem_iff.mp ht, hs⟩
  case mpr =>
    intro ⟨t, ht, hs⟩
    have ⟨p, hp, hn⟩ := List.mem_map.mp (mem_names_iff.mpr (SourceFile.isParsable_of_mem_typesIn ht))
    have ht' : t ∈ p.types := (orderedByName_types hp).perm.mem_iff.mpr (hn ▸ ht)
    exact ⟨⟨p.name, plannedTypes _ p⟩, ⟨p, hp, ⟨t, ht', hs⟩, rfl, rfl⟩, hn⟩

-- A whole tree is planned type by type. Each selected type of the sources has one plan, in its package
-- and at its place by name, and each type leaves its own findings, both as on its own.
theorem planned_selection (packageOf : String → String) (fs : List SourceFile) (legacyCheck : Bool) :
    ∃ tree failures plans found,
      (ofSources packageOf fs).Yields tree failures ∧
      (tree.plan legacyCheck).Yields plans found ∧
      (plans.map (·.name)).Pairwise (· < ·) ∧
      (∀ n, n ∈ plans.map (·.name) ↔ ∃ t ∈ SourceFile.typesIn packageOf fs n, t.isSelected = true) ∧
      (∀ q ∈ plans, ∃ ts,
        OrderedByName ts ((SourceFile.typesIn packageOf fs q.name).filter (·.isSelected)) ∧
        List.Forall₂ (DeclaredType.IsPlannedAs tree.model legacyCheck q.name) ts q.types) ∧
      (∀ findings, Report.typeCount ⟨plans, findings⟩ =
        (fs.flatMap (·.declaredTypes)).countP (·.isSelected)) ∧
      found = tree.packages.flatMap (fun p => p.types.flatMap fun t =>
        ((t.process tree.model legacyCheck p.name).run {}).snd.items) ∧
      ∀ p ∈ tree.packages, ∀ t ∈ p.types,
        ((t.process tree.model legacyCheck p.name).run {}).snd.items =
          (if legacyCheck then t.legacyFindings tree.model.toUniverse else []) ++
            t.planFindings tree.model.toUniverse := by
  have halone (m : TypeModel) (package : String) (t : DeclaredType) :
      ((t.process m legacyCheck package).run {}).snd.items = t.findings m.toUniverse legacyCheck := by
    rw [DeclaredType.yields_process.run_alone]
  refine ⟨_, _, _, _, yields_ofSources, yields_plan, pairwise_planned pairwise_names,
    fun _ => mem_names_planned_iff, fun q hq => ?_, fun _ => ?_, ?_, fun p _ t _ => halone ..⟩
  case refine_1 =>
    have ⟨p, hp, _, hn, ht⟩ := mem_planned_iff.mp hq
    rw [hn, ht]
    exact ⟨_, (orderedByName_types hp).filter _, DeclaredType.forall₂_planned?⟩
  case refine_2 => exact length_planned.trans (perm_types.countP_eq _)
  case refine_3 =>
    simp only [halone]
    exact List.flatMap_assoc

end SourceTree
end CollectionPlan
