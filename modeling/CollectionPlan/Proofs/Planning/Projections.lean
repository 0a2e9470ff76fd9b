import CollectionPlan.Proofs.Planning.TypePlan
import CollectionPlan.TypeModel
import Mathlib.Data.List.Count
import Mathlib.Data.List.Nodup

namespace CollectionPlan

namespace Catalog

theorem nodup_names_projection : projection.names.Nodup := by
  decide

theorem has_of_approves {c : Catalog} (h : c.approves traits method = true) : c.has method = true := by
  unfold approves at h
  cases ht : c.template? method <;> simp_all [has]

-- No name of a catalog is the beginning of another one.
def PrefixFree (c : Catalog) : Prop :=
  ∀ method ∈ c.names, ∀ method' ∈ c.names, method.toList <+: method'.toList → method = method'

instance {c : Catalog} : Decidable c.PrefixFree :=
  inferInstanceAs <| Decidable <|
    ∀ method ∈ c.names, ∀ method' ∈ c.names, method.toList <+: method'.toList → method = method'

theorem prefixFree_projection : projection.PrefixFree := by
  decide

-- Of the standard methods, `Max` is the beginning of `MaxBy`.
example : ¬standard.PrefixFree := by
  decide

-- Where names are no beginnings of each other, a text has at most one of them in front.
theorem PrefixFree.append_inj {c : Catalog} {target target' : String} (h : c.PrefixFree)
    (hm : method ∈ c.names) (hm' : method' ∈ c.names) (he : method ++ target = method' ++ target') :
    method = method' ∧ target = target' := by
  have hl : method.toList ++ target.toList = method'.toList ++ target'.toList := by
    simpa using congrArg String.toList he
  have hp : method.toList <+: method'.toList ++ target'.toList := ⟨_, hl⟩
  have he' : method = method' := by
    cases List.prefix_or_prefix_of_prefix hp (List.prefix_append ..)
    case inl hp => exact h _ hm _ hm' hp
    case inr hp => exact (h _ hm' _ hm hp).symm
  subst he'
  exact ⟨rfl, String.toList_inj.mp (List.append_cancel_left hl)⟩

end Catalog

namespace TypePlan

open Collecting

variable {u : Universe} {d : Directive} {methods targets : List String} {p q : Projection}

theorem mem_projections_iff : p ∈ targets.flatMap (approvedFor u methods) ↔
    p.target ∈ targets ∧ p.method ∈ methods ∧
      Catalog.projection.approves (traitsOf u p.target) p.method = true := by
  simp only [approvedFor, List.mem_flatMap, List.mem_map, List.mem_filter]
  constructor
  case mp =>
    rintro ⟨target, ht, method, ⟨hm, ha⟩, rfl⟩
    exact ⟨ht, hm, ha⟩
  case mpr =>
    intro ⟨ht, hm, ha⟩
    exact ⟨p.target, ht, p.method, ⟨hm, ha⟩, rfl⟩

-- A target has each method that it is capable of as often as the method is a candidate.
theorem count_approvedFor : (approvedFor u methods p.target).count p =
    if Catalog.projection.approves (traitsOf u p.target) p.method then methods.count p.method else 0 := by
  have hi : Function.Injective (Projection.mk · p.target) := fun _ _ h => by simpa using h
  refine (List.count_map_of_injective _ _ hi p.method).trans ?_
  split
  case isTrue ha  => exact List.count_filter ha
  case isFalse ha => exact List.count_eq_zero.mpr fun h => ha (List.mem_filter.mp h).right

theorem count_approvedFor_of_ne (h : p.target ≠ target) : (approvedFor u methods target).count p = 0 := by
  refine List.count_eq_zero.mpr fun hp => ?_
  obtain ⟨_, _, rfl⟩ := List.mem_map.mp hp
  exact h rfl

-- Every listing of a target adds what the target has.
theorem count_projections : (targets.flatMap (approvedFor u methods)).count p =
    targets.count p.target * (approvedFor u methods p.target).count p := by
  induction targets
  case nil => simp
  case cons target targets ih =>
    rw [List.flatMap_cons, List.count_append, ih]
    by_cases h : p.target = target
    case pos => rw [←h, List.count_cons_self, Nat.succ_mul, Nat.add_comm]
    case neg => rw [count_approvedFor_of_ne h, List.count_cons_of_ne (Ne.symm h), Nat.zero_add]

theorem nodup_projections_iff (ht : targets.Nodup) : (targets.flatMap (approvedFor u methods)).Nodup ↔
    ∀ p ∈ targets.flatMap (approvedFor u methods), methods.count p.method = 1 := by
  rw [List.nodup_iff_count_eq_one]
  refine forall₂_congr fun p hp => ?_
  have ⟨hm, _, ha⟩ := mem_projections_iff.mp hp
  rw [count_projections, count_approvedFor, if_pos ha, List.count_eq_one_of_mem ht hm, Nat.one_mul]

-- Without a list of methods the candidates are those of the catalog, each once.
theorem nodup_projection_selected (hn : d.methods = none) : (Candidates.selected d).projection.Nodup := by
  simp only [Candidates.selected, hn, Candidates.all]
  split
  case isTrue  => exact Catalog.nodup_names_projection
  case isFalse => exact .nil

-- With one, a candidate comes as often as it is listed.
theorem count_projection_selected (hl : d.methods = some listed)
    (hm : method ∈ (Candidates.selected d).projection) :
    (Candidates.selected d).projection.count method = listed.items.count method := by
  simp only [Candidates.selected, hl, Candidates.ofList] at hm ⊢
  exact List.count_filter (List.mem_filter.mp hm).right

-- A projection that its target is capable of is planned once for every listing of the target and of the
-- method. So with distinct targets it is repeated exactly if the directive lists its method repeatedly,
-- and never if the directive lists no methods at all.
theorem projection_multiplicity (package : String) (d : Directive) (u : Universe) :
    ∃ plan found, (ofDirective package d u).Yields plan found ∧
      (∀ p, plan.projections.count p = (targetsOf d).count p.target *
        if Catalog.projection.approves (traitsOf u p.target) p.method then
          (Candidates.selected d).projection.count p.method
        else 0) ∧
      ((targetsOf d).Nodup →
        (d.methods = none → plan.projections.Nodup) ∧
        ∀ listed, d.methods = some listed →
          (plan.projections.Nodup ↔ ∀ p ∈ plan.projections, listed.items.count p.method = 1)) := by
  refine ⟨_, _, yields_ofDirective, fun p => ?_, fun ht => ⟨fun hn => ?_, fun listed hl => ?_⟩⟩
  case refine_1 => rw [←count_approvedFor]; exact count_projections
  case refine_2 =>
    refine (nodup_projections_iff ht).mpr fun p hp => ?_
    exact List.count_eq_one_of_mem (nodup_projection_selected hn) (mem_projections_iff.mp hp).right.left
  case refine_3 =>
    refine (nodup_projections_iff ht).trans (forall₂_congr fun p hp => ?_)
    rw [count_projection_selected hl (mem_projections_iff.mp hp).right.left]

-- Two targets, of which one has no order.
def distinctDirective : Directive where
  name        := "Order"
  methods     := some ⟨["Select", "Max"]⟩
  projections := some ⟨["i64", "bool"]⟩

-- The same targets with every method there is.
def untaggedDirective : Directive :=
  { distinctDirective with methods := none }

theorem projection_multiplicity_distinct :
    ((targetsOf distinctDirective).Nodup ∧
      distinctDirective.methods = some ⟨["Select", "Max"]⟩ ∧
      ∃ plan found, (ofDirective "shop" distinctDirective TypeModel.empty.toUniverse).Yields plan found ∧
        plan.projections = [⟨"Select", "i64"⟩, ⟨"Max", "i64"⟩, ⟨"Select", "bool"⟩] ∧
        plan.projections.Nodup) ∧
    ((targetsOf untaggedDirective).Nodup ∧ untaggedDirective.methods = none ∧
      ∃ plan found, (ofDirective "shop" untaggedDirective TypeModel.empty.toUniverse).Yields plan found ∧
        plan.projections.Nodup) := by
  have ht : (targetsOf distinctDirective).Nodup := by decide
  have ⟨plan, found, hy, _, hn⟩ :=
    projection_multiplicity "shop" distinctDirective TypeModel.empty.toUniverse
  have ⟨plan', found', hy', _, hn'⟩ :=
    projection_multiplicity "shop" untaggedDirective TypeModel.empty.toUniverse
  have hp : plan.projections = [⟨"Select", "i64"⟩, ⟨"Max", "i64"⟩, ⟨"Select", "bool"⟩] := by
    rw [←congrArg (·.fst.projections) hy.run_alone]
    decide +kernel
  refine ⟨⟨ht, rfl, plan, found, hy, hp, ?_⟩, ht, rfl, plan', found', hy', (hn' ht).left rfl⟩
  exact ((hn ht).right _ rfl).mpr (by rw [hp]; decide)

-- The line of a directive that lists a method twice, and what it says.
def repeatedLine : String :=
  " +gen methods:\"Select,Select\" projections:\"i64\""

def repeatedDirective : Directive where
  name        := "Order"
  methods     := some ⟨["Select", "Select"]⟩
  projections := some ⟨["i64"]⟩

-- One target is enough for a projection that is planned twice.
theorem projection_repeated :
    Directive.ofDoc? repeatedLine "Order" = some repeatedDirective ∧
    (targetsOf repeatedDirective).Nodup ∧
    ∃ plan found, (ofDirective "shop" repeatedDirective TypeModel.empty.toUniverse).Yields plan found ∧
      plan.projections = [⟨"Select", "i64"⟩, ⟨"Select", "i64"⟩] ∧ ¬plan.projections.Nodup := by
  have hp : (targetsOf repeatedDirective).flatMap
      (approvedFor TypeModel.empty.toUniverse (Candidates.selected repeatedDirective).projection) =
        [⟨"Select", "i64"⟩, ⟨"Select", "i64"⟩] := by
    decide +kernel
  refine ⟨by decide +kernel, by decide, _, _, yields_ofDirective, hp, ?_⟩
  rw [planned, hp]
  decide

theorem mem_names_of_mem_projections (h : p ∈ targets.flatMap (approvedFor u methods)) :
    p.method ∈ Catalog.projection.names :=
  Catalog.has_iff.mp <| Catalog.has_of_approves (mem_projections_iff.mp h).right.right

-- The names of different projections are different.
theorem eq_of_methodName_eq (hp : p.method ∈ Catalog.projection.names)
    (hq : q.method ∈ Catalog.projection.names) (h : p.methodName = q.methodName) : p = q := by
  have ⟨hm, ht⟩ := Catalog.prefixFree_projection.append_inj hp hq h
  cases p
  cases q
  simp_all

-- A projection is found by the name of its method exactly if it is planned, however its target is
-- written: no other planned projection has that name.
theorem hasProjection_append_iff (package : String) (d : Directive) (u : Universe) :
    ∃ plan found, (ofDirective package d u).Yields plan found ∧
      (∀ method ∈ Catalog.projection.names, ∀ target,
        plan.hasProjection (method ++ target) = true ↔ ⟨method, target⟩ ∈ plan.projections) ∧
      ∀ p ∈ plan.projections, ∀ q ∈ plan.projections, p.methodName = q.methodName → p = q := by
  refine ⟨_, _, yields_ofDirective, fun method hm target => ⟨fun h => ?_, fun h => ?_⟩, fun p hp q hq h => ?_⟩
  case refine_1 =>
    obtain ⟨p, hp, hn⟩ := List.any_eq_true.mp h
    have he : p = ⟨method, target⟩ :=
      eq_of_methodName_eq (mem_names_of_mem_projections hp) hm (of_decide_eq_true hn)
    exact he ▸ hp
  case refine_2 => exact List.any_eq_true.mpr ⟨_, h, by simp [Projection.methodName]⟩
  case refine_3 =>
    exact eq_of_methodName_eq (mem_names_of_mem_projections hp) (mem_names_of_mem_projections hq) h

-- A target whose name is that of a method for the other target.
def nestedDirective : Directive where
  name        := "Order"
  projections := some ⟨["i64", "Maxi64"]⟩

theorem hasProjection_append_iff_nested :
    "Max" ∈ Catalog.projection.names ∧ "Select" ∈ Catalog.projection.names ∧
    ∃ plan found, (ofDirective "shop" nestedDirective TypeModel.empty.toUniverse).Yields plan found ∧
      plan.hasProjection ("Max" ++ "i64") = true ∧
      plan.hasProjection ("Select" ++ "Maxi64") = true ∧
      plan.hasProjection ("Max" ++ "Maxi64") = false := by
  have hm : "Max" ∈ Catalog.projection.names := by decide
  have hs : "Select" ∈ Catalog.projection.names := by decide
  have ⟨plan, found, hy, hi, _⟩ :=
    hasProjection_append_iff "shop" nestedDirective TypeModel.empty.toUniverse
  have hp := congrArg (·.fst.projections) hy.run_alone
  refine ⟨hm, hs, plan, found, hy, (hi _ hm _).mpr ?_, (hi _ hs _).mpr ?_, ?_⟩
  case refine_1 => rw [←hp]; decide +kernel
  case refine_2 => rw [←hp]; decide +kernel
  case refine_3 =>
    refine Bool.eq_false_iff.mpr fun h => absurd ((hi _ hm _).mp h) ?_
    rw [←hp]
    decide +kernel

end TypePlan
end CollectionPlan
