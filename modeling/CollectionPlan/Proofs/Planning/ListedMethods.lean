import CollectionPlan.Plan.TypePlan
import CollectionPlan.Proofs.Planning.Candidates

namespace CollectionPlan.Candidates

open Collecting

variable {d : Directive} {methods : List String}

theorem isProjection_iff :
    isProjection d method = true ↔ d.projections.isSome ∧ method ∈ Catalog.projection.names := by
  rw [isProjection, Bool.and_eq_true, Catalog.has_iff]

theorem hasTargets_iff : hasTargets d = true ↔ TypePlan.targetsOf d ≠ [] := by
  unfold hasTargets TypePlan.targetsOf
  cases d.projections <;> simp

theorem standard_ofList : (ofList d methods).standard = methods.filter (· ∈ Catalog.standard.names) := by
  refine List.filter_congr fun method _ => ?_
  rw [Bool.eq_iff_iff, Catalog.has_iff, decide_eq_true_iff]

-- Without targets no listed name is a projection method.
theorem projection_ofList : (ofList d methods).projection =
    if d.projections.isSome then methods.filter (· ∈ Catalog.projection.names) else [] := by
  unfold ofList
  split
  case isTrue h =>
    refine List.filter_congr fun method _ => ?_
    rw [Bool.eq_iff_iff, isProjection_iff, decide_eq_true_iff]
    exact and_iff_right h
  case isFalse h =>
    refine List.filter_eq_nil_iff.mpr fun method _ hp => ?_
    exact h (isProjection_iff.mp hp).left

-- A listed name is unknown if it ends up in neither list.
theorem isUnknown_iff (hm : method ∈ methods) : isUnknown d method = true ↔
    method ∉ (ofList d methods).standard ∧ method ∉ (ofList d methods).projection := by
  simp [isUnknown, ofList, hm]

theorem findings_of_listed (hd : d.methods = some listed) : findings d =
    ((listed.items.filter fun method => method ∉ (ofList d listed.items).standard ∧
        method ∉ (ofList d listed.items).projection).map (unknownMethod d)) ++
      if TypePlan.targetsOf d ≠ [] ∧ (ofList d listed.items).projection = [] then
        [targetsWithoutMethods d] else [] := by
  have hu : listed.items.filter (isUnknown d) = listed.items.filter fun method =>
      method ∉ (ofList d listed.items).standard ∧ method ∉ (ofList d listed.items).projection := by
    refine List.filter_congr fun method hm => ?_
    rw [Bool.eq_iff_iff, isUnknown_iff hm, decide_eq_true_iff]
  simp only [findings, hd, hu, Bool.and_eq_true, hasTargets_iff, List.isEmpty_iff]

-- What would be said of methods without targets. No other finding has this text.
def methodsWithoutTargets (name : String) : String :=
  s!"you've included projection methods without specifying projection types on type {name}"

-- An unknown method is told apart by the first letter, targets without methods by the one behind
-- what the two texts have in common.
theorem ne_methodsWithoutTargets (h : text.toList[0]? ≠ some 'y' ∨ text.toList[27]? ≠ some 'm') :
    text ≠ methodsWithoutTargets name := by
  rintro rfl
  unfold methodsWithoutTargets at h
  simp [toString] at h

theorem message_ne_of_mem_findings (h : x ∈ findings d) : x.message ≠ methodsWithoutTargets name := by
  apply ne_methodsWithoutTargets
  obtain ⟨method, rfl⟩ | rfl := eq_of_mem_findings h
  · exact .inl (by simp [unknownMethod, toString])
  · exact .inr (by simp [targetsWithoutMethods, toString])

theorem projection_selected : (selected d).projection = [] ∨ d.projections.isSome := by
  unfold selected
  cases d.methods
  case none => simp only [all]; split <;> simp_all
  case some => rw [projection_ofList]; split <;> simp_all

-- Every listed name becomes a candidate in each catalog that has it, as often as it is listed, or it is
-- reported, never both. Targets that no method is for are reported behind these. Methods without
-- targets cannot come up, so that there is nothing to report of them.
theorem listed_methods_accounted (d : Directive) :
    ∃ c found, (ofDirective d).Yields c found ∧
      (∀ listed, d.methods = some listed →
        c.standard = listed.items.filter (· ∈ Catalog.standard.names) ∧
        c.projection =
          (if d.projections.isSome then listed.items.filter (· ∈ Catalog.projection.names) else []) ∧
        found =
          (listed.items.filter fun method => method ∉ c.standard ∧ method ∉ c.projection).map
            (unknownMethod d) ++
          if TypePlan.targetsOf d ≠ [] ∧ c.projection = [] then [targetsWithoutMethods d] else []) ∧
      (d.methods = none → found = []) ∧
      (c.projection = [] ∨ d.projections.isSome) ∧
      ∀ x ∈ found, ∀ name, x.message ≠ methodsWithoutTargets name := by
  refine ⟨selected d, findings d, yields_ofDirective, fun listed hl => ?_, fun hn => ?_, ?_, ?_⟩
  case refine_1 =>
    have hs : selected d = ofList d listed.items := by simp [selected, hl]
    rw [hs]
    exact ⟨standard_ofList, projection_ofList, findings_of_listed hl⟩
  case refine_2 => simp [findings, hn]
  case refine_3 => exact projection_selected
  case refine_4 => exact fun _ hx _ => message_ne_of_mem_findings hx

-- A name of both catalogs twice, one of the second catalog alone, and one of neither.
def mixedDirective : Directive where
  name        := "Order"
  methods     := some ⟨["Sum", "Select", "Total", "Sum"]⟩
  projections := some ⟨["i64"]⟩

-- No list of methods at all.
def plainDirective : Directive where
  name := "Order"

theorem listed_methods_accounted_mixed :
    (mixedDirective.methods = some ⟨["Sum", "Select", "Total", "Sum"]⟩ ∧
      (ofDirective mixedDirective).Yields ⟨["Sum", "Sum"], ["Sum", "Select", "Sum"]⟩
        [⟨.unknownMethod, some "Order", "method Total is unknown (type Order)"⟩]) ∧
    (plainDirective.methods = none ∧ ∃ c, (ofDirective plainDirective).Yields c []) := by
  have ⟨c, found, hy, hl, _⟩ := listed_methods_accounted mixedDirective
  have ⟨c', found', hy', _, hn, _⟩ := listed_methods_accounted plainDirective
  have ⟨hs, hp, hf⟩ := hl ⟨["Sum", "Select", "Total", "Sum"]⟩ rfl
  have hc : c = ⟨["Sum", "Sum"], ["Sum", "Select", "Sum"]⟩ := by
    cases c
    simp only [Candidates.mk.injEq]
    exact ⟨hs.trans (by decide), hp.trans (by decide)⟩
  subst hc
  exact ⟨⟨rfl, .of_eq hy (hf.trans (by decide))⟩, rfl, c', .of_eq hy' (hn rfl)⟩

end CollectionPlan.Candidates
