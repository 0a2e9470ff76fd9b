import CollectionPlan.Proofs.TypeGraph

namespace CollectionPlan.TypeModel

variable {m : TypeModel} {d : Declaration} {ds : List Declaration} {items : List (Option TypeItem)} {n : String}

@[simp]
theorem find?_empty : empty.find? n = none :=
  rfl

theorem find?_eq_none_iff : m.find? n = none ↔ n ∉ m.names := by
  simp [find?, names]

-- The declaration that was there before goes first.
theorem find?_declare : (m.declare d).find? n = (m.find? n).or (if d.name = n then some d else none) := by
  unfold declare
  split
  case isTrue h =>
    split
    case isTrue hn =>
      have ⟨d', hd⟩ := Option.isSome_iff_exists.mp (declares_iff.mpr (hn ▸ h))
      simp [hd]
    case isFalse => simp
  case isFalse h => simp [find?, List.find?_append, List.find?_singleton]

-- A later declaration of a name is found only if there is none before.
theorem find?_declareAll : (m.declareAll ds).find? n = (m.find? n).or (ds.find? (·.name = n)) := by
  induction ds generalizing m
  case nil => simp [declareAll]
  case cons d ds ih =>
    have hc : m.declareAll (d :: ds) = (m.declare d).declareAll ds := rfl
    rw [hc, ih, find?_declare, Option.or_assoc, List.find?_cons]
    by_cases h : d.name = n <;> simp [h]

theorem mem_names_declareAll_iff : n ∈ (m.declareAll ds).names ↔ n ∈ m.names ∨ n ∈ ds.map (·.name) := by
  rw [←not_iff_not, not_or, ←find?_eq_none_iff, ←find?_eq_none_iff, find?_declareAll, Option.or_eq_none_iff]
  simp

-- What a name refers to is the first item of that name, lowered.
theorem find?_declareItems : (empty.declareItems items).find? n =
    ((items.filterMap id).find? (·.name = n)).map (·.lower) := by
  rw [declareItems, find?_declareAll, find?_empty, Option.none_or, TypeItem.filterMap_lower?, List.find?_map]
  rfl

end CollectionPlan.TypeModel
