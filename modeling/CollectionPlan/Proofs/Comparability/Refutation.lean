import CollectionPlan.Proofs.Comparability.Search

open Relation

namespace CollectionPlan.TypeModel

variable {m : TypeModel}

-- Expressions that are not comparable whatever they are made of.
inductive Incomparable (m : TypeModel) : TypeExpr → Prop
  | dynamic    : Incomparable m (.dynamic name args)
  | function   : Incomparable m .function
  | unknown    : Incomparable m (.unknown text)
  | undeclared (hd : m.find? n = none) : Incomparable m (.named n)

-- Why a search below the names in `visiting` decides against an expression: a path that enters no
-- name twice ends at an incomparable part or comes back to an alias.
inductive Refuted (m : TypeModel) : List String → TypeExpr → Prop
  | part   (h : m.Incomparable e) : Refuted m visiting e
  | back   (ha : m.IsAlias n) (hv : n ∈ visiting) : Refuted m visiting (.named n)
  | inside (hn : ∀ n, e ≠ .named n) (hc : m.Child e e') (h : Refuted m visiting e') :
    Refuted m visiting e
  | member (hv : n ∉ visiting) (hc : m.Child (.named n) e) (h : Refuted m (n :: visiting) e) :
    Refuted m visiting (.named n)

@[simp]
theorem not_refuted_primitive : ¬m.Refuted visiting (.primitive p) := by
  rintro (⟨⟨⟩⟩ | _ | ⟨_, ⟨⟩, _⟩)

@[simp]
theorem not_refuted_unit : ¬m.Refuted visiting .unit := by
  rintro (⟨⟨⟩⟩ | _ | ⟨_, ⟨⟩, _⟩)

@[simp]
theorem not_refuted_pointer : ¬m.Refuted visiting (.pointer e) := by
  rintro (⟨⟨⟩⟩ | _ | ⟨_, ⟨⟩, _⟩)

@[simp]
theorem refuted_wrapper : m.Refuted visiting (.wrapper e) ↔ m.Refuted visiting e where
  mp  := by rintro (⟨⟨⟩⟩ | _ | ⟨_, ⟨⟩, h⟩); exact h
  mpr := .inside (by simp) .wrapper

@[simp]
theorem refuted_array : m.Refuted visiting (.array e) ↔ m.Refuted visiting e where
  mp  := by rintro (⟨⟨⟩⟩ | _ | ⟨_, ⟨⟩, h⟩); exact h
  mpr := .inside (by simp) .array

@[simp]
theorem refuted_tuple : m.Refuted visiting (.tuple es) ↔ ∃ e ∈ es, m.Refuted visiting e where
  mp  := by rintro (⟨⟨⟩⟩ | _ | ⟨_, _ | _ | he, h⟩); exact ⟨_, he, h⟩
  mpr := fun ⟨_, he, h⟩ => .inside (by simp) (.elem he) h

theorem refuted_of_back (hd : m.find? n = some d) (hv : n ∈ visiting) :
    m.Refuted visiting (.named n) ↔ d.isAlias := by
  rw [←isAlias_iff hd]
  refine ⟨fun h => ?_, fun h => .back h hv⟩
  cases h
  case part h        => cases h; simp_all
  case back ha _     => exact ha
  case inside _ hn _ => exact absurd rfl (hn n)
  case member hv' _  => contradiction

theorem refuted_of_enter (hd : m.find? n = some d) (hv : n ∉ visiting) :
    m.Refuted visiting (.named n) ↔ ∃ t ∈ d.members, m.Refuted (n :: visiting) t := by
  constructor
  case mpr => exact fun ⟨_, ht, h⟩ => .member hv (.member hd ht) h
  case mp =>
    intro h
    cases h
    case part h         => cases h; simp_all
    case back hv' _     => contradiction
    case inside _ hn _  => exact absurd rfl (hn n)
    case member hc _ h  =>
      cases hc
      case member hd' ht => exact ⟨_, Option.some.inj (hd.symm.trans hd') ▸ ht, h⟩

-- The answer of a search is no exactly if there is a reason for it.
theorem Search.eq_false_iff (h : m.Search visiting e b) : b = false ↔ m.Refuted visiting e := by
  induction h
  case primitive | unit | pointer => simp
  case wrapper ih | array ih      => simpa using ih
  case dynamic                    => simpa using Refuted.part .dynamic
  case function                   => simpa using Refuted.part .function
  case unknown                    => simpa using Refuted.part .unknown
  case undeclared hd              => simpa using Refuted.part (.undeclared hd)
  case tupleAll ih                => simpa using ih
  case back hd hv                 => simp [refuted_of_back hd hv]
  case enter hd hv _ ih           => simpa [refuted_of_enter hd hv] using ih
  case tupleStop e _ _ _ _ hi     => simpa using ⟨e, by simp, hi.mp rfl⟩

theorem search_iff : m.Search [] e b ↔ m.comparable e = b where
  mpr h := h ▸ search_comparable m e
  mp h  := by
    have h₁ := h.eq_false_iff
    have h₂ := (search_comparable m e).eq_false_iff
    cases b <;> simp_all

theorem comparable_iff : m.comparable e = true ↔ ¬m.Refuted [] e := by
  simp [←(search_comparable m e).eq_false_iff]

namespace Refuted

-- A reason that holds below all larger sets of names is found at the end of every path. The path
-- may enter names repeatedly: what is behind the last visit of a name is found below this name.
theorem of_reachesOutside {visiting : List String} {e e' : TypeExpr}
    (h : m.ReachesOutside visiting e e') (hr : ∀ v, visiting ⊆ v → m.Refuted v e') :
    m.Refuted visiting e := by
  induction h using ReflTransGen.head_induction_on
  case refl => exact hr _ (List.Subset.refl _)
  case head e₁ e₂ hc hp ih =>
    by_cases hn : ∃ n, e₁ = .named n
    case neg => exact .inside (fun n he => hn ⟨n, he⟩) hc.left ih
    case pos =>
      obtain ⟨n, rfl⟩ := hn
      have hv : n ∉ visiting := fun hv => hc.right n hv rfl
      have ⟨t, ht, hp⟩ := ReachesOutside.last_member hc.left hp
      have hlt := ht.unvisited_lt hv
      exact .member hv ht <| of_reachesOutside hp fun v hs =>
        hr v <| List.Subset.trans (List.subset_cons_self ..) hs
termination_by m.unvisited visiting

end Refuted
end CollectionPlan.TypeModel
