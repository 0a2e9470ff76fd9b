import CollectionPlan.Plan.TypePlan
import Mathlib.Data.List.Basic

namespace CollectionPlan

-- The methods that a support module is there for.
def Requirement.methods : Requirement → List String
  | errors => Requirements.fallible
  | sort   => Requirements.sorting

namespace Requirements

variable {r r' : Requirements} {x : Requirement} {methods : List String}

-- A set is what is in it.
theorem ext_mem (h : ∀ x, x ∈ r.toList ↔ x ∈ r'.toList) : r = r' := by
  have he := h .errors
  have hs := h .sort
  rw [mem_toList, mem_toList, ←Bool.eq_iff_iff] at he
  rw [sort_mem_toList, sort_mem_toList, ←Bool.eq_iff_iff] at hs
  cases r
  cases r'
  simp_all

theorem mem_union_iff : x ∈ (r.union r').toList ↔ x ∈ r.toList ∨ x ∈ r'.toList := by
  cases x <;> simp [union]

theorem mem_ofMethod_iff : x ∈ (ofMethod method).toList ↔ method ∈ x.methods := by
  cases x <;> simp [ofMethod, Requirement.methods]

theorem mem_foldl_iff : x ∈ (methods.foldl (fun r method => r.union (ofMethod method)) r).toList ↔
    x ∈ r.toList ∨ ∃ method ∈ methods, method ∈ x.methods := by
  induction methods generalizing r
  case nil                 => simp
  case cons method rest ih => simp [ih, mem_union_iff, mem_ofMethod_iff, or_assoc]

theorem mem_ofMethods_iff : x ∈ (ofMethods methods).toList ↔ ∃ method ∈ methods, method ∈ x.methods := by
  rw [ofMethods, mem_foldl_iff, or_iff_right]
  cases x <;> simp

end Requirements

namespace TypePlan

-- What is done to a plan while it is built.
inductive Call
  | addStandard (method : String)
  | addProjection (method target : String)
  | finalize
deriving DecidableEq

namespace Call

def apply (plan : TypePlan) : Call → TypePlan
  | addStandard method          => plan.addStandard method
  | addProjection method target => plan.addProjection method target
  | finalize                    => plan.finalize

def standard? : Call → Option String
  | addStandard method => some method
  | _                  => none

def projection? : Call → Option Projection
  | addProjection method target => some { method, target }
  | _                           => none

end Call

-- What becomes of a plan by some calls, one after the other.
def replay (plan : TypePlan) (calls : List Call) : TypePlan :=
  calls.foldl Call.apply plan

def extend (plan : TypePlan) (standard : List String) (projections : List Projection) : TypePlan :=
  { plan with
    standardMethods := plan.standardMethods ++ standard
    projections     := plan.projections ++ projections }

-- Some of the methods ask for a support module.
def Require (s : List String) (ps : List Projection) (x : Requirement) : Prop :=
  (∃ method ∈ s, method ∈ x.methods) ∨ ∃ p ∈ ps, p.method ∈ x.methods

-- What a plan requires is what the methods of another one require.
structure DerivedFrom (plan present : TypePlan) : Prop where
  requirements : plan.requirements = supportOf present.standardMethods present.projections
  extendedSort : plan.requiresExtendedSort = needsExtendedSort present.standardMethods

variable {plan present : TypePlan} {c : Call} {calls : List Call} {s s' : List String}
  {ps ps' : List Projection} {x : Requirement}

theorem Require.append_iff : Require (s ++ s') (ps ++ ps') x ↔ Require s ps x ∨ Require s' ps' x := by
  simp only [Require, List.mem_append, or_and_right, exists_or]
  exact or_or_or_comm

theorem Require.mono (h : Require s ps x) (hs : s ⊆ s') (hp : ps ⊆ ps') : Require s' ps' x :=
  h.imp (fun ⟨method, hm, hx⟩ => ⟨method, hs hm, hx⟩) (fun ⟨p, hm, hx⟩ => ⟨p, hp hm, hx⟩)

theorem mem_supportOf_iff : x ∈ (supportOf s ps).toList ↔ Require s ps x := by
  simp only [Require, supportOf, Requirements.mem_ofMethods_iff, List.mem_append, List.mem_map, or_and_right,
    exists_or]
  refine or_congr_right ⟨?_, ?_⟩
  · rintro ⟨_, ⟨p, hp, rfl⟩, hx⟩
    exact ⟨p, hp, hx⟩
  · rintro ⟨p, hp, hx⟩
    exact ⟨_, ⟨p, hp, rfl⟩, hx⟩

theorem supportOf_append : supportOf (s ++ s') (ps ++ ps') = (supportOf s ps).union (supportOf s' ps') := by
  refine Requirements.ext_mem fun x => ?_
  rw [Requirements.mem_union_iff, mem_supportOf_iff, mem_supportOf_iff, mem_supportOf_iff, Require.append_iff]

-- What is required hangs on which methods there are, not on their order or number.
theorem supportOf_congr (hs : s ⊆ s') (hs' : s' ⊆ s) (hp : ps ⊆ ps') (hp' : ps' ⊆ ps) :
    supportOf s ps = supportOf s' ps' := by
  refine Requirements.ext_mem fun x => ?_
  rw [mem_supportOf_iff, mem_supportOf_iff]
  exact ⟨fun h => h.mono hs hp, fun h => h.mono hs' hp'⟩

theorem needsExtendedSort_iff : needsExtendedSort s ↔ ∃ method ∈ s, extendedSortMarker <+: method.toList := by
  simp [needsExtendedSort]

theorem needsExtendedSort_append :
    needsExtendedSort (s ++ s') = (needsExtendedSort s || needsExtendedSort s') :=
  List.any_append

-- One call.

theorem derivedFrom_finalize : plan.finalize.DerivedFrom plan :=
  ⟨rfl, rfl⟩

theorem DerivedFrom.apply (h : plan.DerivedFrom present) (hc : c ≠ .finalize) :
    (c.apply plan).DerivedFrom present := by
  cases c
  case addStandard   => exact ⟨h.requirements, h.extendedSort⟩
  case addProjection => exact ⟨h.requirements, h.extendedSort⟩
  case finalize      => exact absurd rfl hc

-- Up to what is derived, a call only adds at the ends of the lists.
theorem finalize_apply :
    (c.apply plan).finalize = (plan.extend c.standard?.toList c.projection?.toList).finalize := by
  cases c
  case addStandard   => simp [Call.apply, Call.standard?, Call.projection?, extend, addStandard]
  case addProjection => simp [Call.apply, Call.standard?, Call.projection?, extend, addProjection]
  case finalize      => simp [Call.apply, Call.standard?, Call.projection?, extend, finalize]

-- All calls.

theorem DerivedFrom.replay (h : plan.DerivedFrom present) (hc : .finalize ∉ calls) :
    (plan.replay calls).DerivedFrom present := by
  induction calls generalizing plan
  case nil => exact h
  case cons c calls ih =>
    rw [List.mem_cons, not_or] at hc
    exact ih (h.apply (Ne.symm hc.left)) hc.right

theorem finalize_extend : (plan.finalize.extend s ps).finalize = (plan.extend s ps).finalize :=
  rfl

theorem extend_extend : (plan.extend s ps).extend s' ps' = plan.extend (s ++ s') (ps ++ ps') := by
  simp [extend]

theorem finalize_replay : (plan.replay calls).finalize =
    (plan.extend (calls.filterMap Call.standard?) (calls.filterMap Call.projection?)).finalize := by
  induction calls generalizing plan
  case nil => simp [replay, extend]
  case cons c calls ih =>
    calc
      ((c.apply plan).replay calls).finalize
        = ((c.apply plan).finalize.extend (calls.filterMap Call.standard?)
            (calls.filterMap Call.projection?)).finalize := ih
      _ = ((plan.extend c.standard?.toList c.projection?.toList).extend (calls.filterMap Call.standard?)
            (calls.filterMap Call.projection?)).finalize := by rw [finalize_apply, finalize_extend]
      _ = _ := by cases c <;> simp [extend_extend, List.filterMap_cons, Call.standard?, Call.projection?]

theorem methods_replay :
    (plan.replay calls).standardMethods = plan.standardMethods ++ calls.filterMap Call.standard? ∧
    (plan.replay calls).projections = plan.projections ++ calls.filterMap Call.projection? :=
  ⟨congrArg (·.standardMethods) finalize_replay, congrArg (·.projections) finalize_replay⟩

-- A call of `finalize` before the last one leaves no trace.
theorem finalize_replay_filter :
    (plan.replay (calls.filter (· ≠ .finalize))).finalize = (plan.replay calls).finalize := by
  have hf {β : Type} {f : Call → Option β} (h : f .finalize = none) :
      (calls.filter (· ≠ .finalize)).filterMap f = calls.filterMap f := by
    rw [List.filterMap_filter]
    refine List.filterMap_congr fun c _ => ?_
    by_cases hc : c = .finalize
    · simp [hc, h]
    · simp [hc]
  rw [finalize_replay, finalize_replay, hf rfl, hf rfl]

-- What a plan requires is up to date with the methods that it had when `finalize` was called last, and nothing
-- before the first such call. Calls add methods at the ends of their lists and do nothing else to them. The
-- requirements of two lists are those of either of them, in whatever order the methods stand and however often.
theorem derivedFrom_last_finalize (package : String) (d : Directive) :
    (∀ calls, .finalize ∉ calls → ((new package d).replay calls).requirements = {} ∧
      ((new package d).replay calls).requiresExtendedSort = false) ∧
    (∀ calls more, .finalize ∉ more →
      ((new package d).replay (calls ++ .finalize :: more)).DerivedFrom ((new package d).replay calls)) ∧
    (∀ plan calls,
      (replay plan calls).standardMethods = plan.standardMethods ++ calls.filterMap Call.standard? ∧
      (replay plan calls).projections = plan.projections ++ calls.filterMap Call.projection?) ∧
    (∀ plan, (finalize plan).finalize = plan.finalize) ∧
    (∀ plan calls, (replay plan (calls.filter (· ≠ .finalize))).finalize = (replay plan calls).finalize) ∧
    (∀ s ps x, x ∈ (supportOf s ps).toList ↔ Require s ps x) ∧
    (∀ s s' ps ps', supportOf (s ++ s') (ps ++ ps') = (supportOf s ps).union (supportOf s' ps')) ∧
    (∀ s s' ps ps', s ⊆ s' → s' ⊆ s → ps ⊆ ps' → ps' ⊆ ps → supportOf s ps = supportOf s' ps') ∧
    (∀ s, needsExtendedSort s ↔ ∃ method ∈ s, extendedSortMarker <+: method.toList) ∧
    ∀ s s', needsExtendedSort (s ++ s') = (needsExtendedSort s || needsExtendedSort s') := by
  refine ⟨fun calls hc => ?_, fun calls more hc => ?_, fun _ _ => methods_replay, fun _ => rfl,
    fun _ _ => finalize_replay_filter, fun _ _ _ => mem_supportOf_iff, fun _ _ _ _ => supportOf_append,
    fun _ _ _ _ => supportOf_congr, fun _ => needsExtendedSort_iff, fun _ _ => needsExtendedSort_append⟩
  case refine_1 =>
    have hn : (new package d).DerivedFrom (new package d) := ⟨rfl, rfl⟩
    have h := hn.replay hc
    exact ⟨h.requirements, h.extendedSort⟩
  case refine_2 =>
    rw [replay, List.foldl_append]
    exact derivedFrom_finalize.replay hc

-- What is added in front of a call of `finalize`, and behind it.

def earlyCalls : List Call :=
  [.addStandard "Where", .addProjection "Max" "i64"]

def lateCalls : List Call :=
  [.addStandard "Sort", .addStandard "SortByDesc"]

theorem derivedFrom_last_finalize_stale :
    .finalize ∉ earlyCalls ∧ .finalize ∉ lateCalls ∧
    ((new "shop" { name := "Order" }).replay earlyCalls).requirements = {} ∧
    ((new "shop" { name := "Order" }).replay (earlyCalls ++ .finalize :: lateCalls)).requirements =
      { errors := true } ∧
    ((new "shop" { name := "Order" }).replay (earlyCalls ++ .finalize :: lateCalls)).requiresExtendedSort =
      false ∧
    ["Sort", "Max"] ⊆ ["Max", "Sort", "Max"] ∧ ["Max", "Sort", "Max"] ⊆ ["Sort", "Max"] ∧
    supportOf ["Sort", "Max"] [] = supportOf ["Max", "Sort", "Max"] [] := by
  have ⟨hn, hl, _, _, _, _, _, hc, _⟩ := derivedFrom_last_finalize "shop" { name := "Order" }
  have he : .finalize ∉ earlyCalls := by decide
  have ha : .finalize ∉ lateCalls := by decide
  have hd := hl earlyCalls lateCalls ha
  have hs : ["Sort", "Max"] ⊆ ["Max", "Sort", "Max"] := by decide
  have hs' : ["Max", "Sort", "Max"] ⊆ ["Sort", "Max"] := by decide
  exact ⟨he, ha, (hn _ he).left, hd.requirements.trans (by decide), hd.extendedSort.trans (by decide),
    hs, hs', hc _ _ _ _ hs hs' (List.Subset.refl []) (List.Subset.refl [])⟩

end TypePlan
end CollectionPlan
