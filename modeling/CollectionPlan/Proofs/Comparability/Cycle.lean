import CollectionPlan.Proofs.Comparability.Refutation

open Relation

namespace CollectionPlan.TypeModel

variable {m : TypeModel}

def OnCycle (m : TypeModel) (n : String) : Prop :=
  TransGen m.Child (.named n) (.named n)

-- A path that enters none of the names in `visiting` and no name twice comes to a cycle, and it does
-- so at `n`: the cycle leads back to `n` without a name that the path entered before.
inductive EntersCycle (m : TypeModel) : List String → TypeExpr → String → Prop
  | here   (h : TransGen (m.ChildOutside visiting) (.named n) (.named n)) :
    EntersCycle m visiting (.named n) n
  | inside (hn : ∀ n, e ≠ .named n) (hc : m.Child e e') (h : EntersCycle m visiting e' n) :
    EntersCycle m visiting e n
  | member (hv : n' ∉ visiting) (hc : m.Child (.named n') e) (h : EntersCycle m (n' :: visiting) e n) :
    EntersCycle m visiting (.named n') n

theorem Child.outside_of_not_mem (hc : m.Child (.named n) e) (hv : n ∉ visiting) :
    m.ChildOutside visiting (.named n) e := by
  refine ⟨hc, fun n' hv' he => ?_⟩
  cases he
  exact hv hv'

namespace EntersCycle

theorem mono (h : m.EntersCycle visiting e n) (hs : v ⊆ visiting) : m.EntersCycle v e n := by
  induction h generalizing v
  case here h =>
    exact .here <| TransGen.mono (fun _ _ hc => ChildOutside.mono hc hs) _ _ h
  case inside hn hc _ ih => exact .inside hn hc (ih hs)
  case member hv hc _ ih =>
    exact .member (fun h => hv (hs h)) hc (ih <| List.cons_subset_cons _ hs)

theorem reaches (h : m.EntersCycle visiting e n) : m.Reaches e (.named n) := by
  induction h
  case here               => exact .refl
  case inside hc _ ih     => exact .head hc ih
  case member hc _ ih     => exact .head hc ih

theorem onCycle (h : m.EntersCycle visiting e n) : m.OnCycle n := by
  induction h
  case here h      => exact TransGen.mono (fun _ _ hc => hc.left) _ _ h
  case inside ih   => exact ih
  case member ih   => exact ih

-- The search comes back to an alias at which a path enters a cycle.
theorem refuted (h : m.EntersCycle visiting e a) (ha : m.IsAlias a) : m.Refuted visiting e := by
  induction h
  case inside hn hc _ ih => exact .inside hn hc (ih ha)
  case member hv hc _ ih => exact .member hv hc (ih ha)
  case here visiting a h =>
    have ⟨e, hc, hp⟩ := TransGen.head'_iff.mp h
    have hv : a ∉ visiting := fun hv => hc.right a hv rfl
    have ⟨t, ht, hp⟩ := ReachesOutside.last_member hc.left hp
    exact .member hv ht <| Refuted.of_reachesOutside hp fun _ hs => .back ha (hs <| List.mem_cons_self ..)

end EntersCycle

-- A search decides against an expression for one of three reasons.
theorem refuted_iff : m.Refuted visiting e ↔
    (∃ e', m.ReachesOutside visiting e e' ∧ m.Incomparable e') ∨
    (∃ a ∈ visiting, m.IsAlias a ∧ m.ReachesOutside visiting e (.named a)) ∨
    (∃ a, m.IsAlias a ∧ m.EntersCycle visiting e a) := by
  constructor
  case mpr =>
    rintro (⟨e', hp, hi⟩ | ⟨a, hv, ha, hp⟩ | ⟨a, ha, h⟩)
    · exact .of_reachesOutside hp fun _ _ => .part hi
    · exact .of_reachesOutside hp fun _ hs => .back ha (hs hv)
    · exact h.refuted ha
  case mp =>
    intro h
    induction h
    case part e _ hi         => exact .inl ⟨e, .refl, hi⟩
    case back n _ ha hv      => exact .inr <| .inl ⟨n, hv, ha, .refl⟩
    case inside visiting hn hc _ ih =>
      have ho : m.ChildOutside visiting _ _ := ⟨hc, fun n _ => hn n⟩
      obtain ⟨e', hp, hi⟩ | ⟨a, hv, ha, hp⟩ | ⟨a, ha, h⟩ := ih
      · exact .inl ⟨e', .head ho hp, hi⟩
      · exact .inr <| .inl ⟨a, hv, ha, .head ho hp⟩
      · exact .inr <| .inr ⟨a, ha, .inside hn hc h⟩
    case member visiting n _ hv hc _ ih =>
      have ho := hc.outside_of_not_mem hv
      have hs := List.subset_cons_self n visiting
      obtain ⟨e', hp, hi⟩ | ⟨a, hv', ha, hp⟩ | ⟨a, ha, h⟩ := ih
      · exact .inl ⟨e', .head ho (hp.mono hs), hi⟩
      · replace hp := ReachesOutside.mono hp hs
        cases hv'
        case head    => exact .inr <| .inr ⟨n, ha, .here <| .head' ho hp⟩
        case tail hv' => exact .inr <| .inl ⟨a, hv', ha, .head ho hp⟩
      · exact .inr <| .inr ⟨a, ha, .member hv hc h⟩

-- Equality is defined for an expression exactly if none of its paths ends at an incomparable part or
-- enters a cycle at an alias.
theorem comparable_iff_paths : m.comparable e = true ↔
    (∀ e', m.Reaches e e' → ¬m.Incomparable e') ∧ ∀ a, m.IsAlias a → ¬m.EntersCycle [] e a := by
  simp [comparable_iff, refuted_iff, reachesOutside_nil]

end CollectionPlan.TypeModel
