import CollectionPlan.Proofs.FilePath.Components

namespace CollectionPlan.FilePath

variable {p q : FilePath} {c : Component} {cs : List Component}

-- The path above a path by a number of steps.
def ancestor? (p : FilePath) : Nat → Option FilePath
  | 0     => some p
  | i + 1 => p.parent?.bind (ancestor? · i)

theorem IsNormal.eq_nil_of_root (h : IsNormal (cs ++ [.root])) : cs = [] := by
  have hn : ¬IsStep .root := nofun
  cases cs
  case nil => rfl
  case cons c cs =>
    refine absurd ?_ hn
    cases h
    case root h     => exact h _ (by simp)
    case here h     => exact h _ (by simp)
    case relative h => exact h _ (by simp)

theorem above_concat (hr : c ≠ .root) :
    ancestors.above (cs ++ [c]).reverse = cs.reverse :: ancestors.above cs.reverse := by
  rw [List.reverse_concat]
  cases c
  case root => exact absurd rfl hr
  all_goals rfl

-- The ancestors of a path are the path, and those of its parent.
theorem ancestors_eq : p.ancestors = p :: p.parent?.elim [] ancestors := by
  cases hl : p.components.getLast?
  case none =>
    have hn : p.components = [] := List.getLast?_eq_none_iff.mp hl
    simp [ancestors, parent?, hn, ancestors.above]
  case some c =>
    have ⟨cs, hc⟩ := List.getLast?_eq_some_iff.mp hl
    have hp : IsNormal (cs ++ [c]) := hc ▸ isNormal_components
    by_cases hr : c = .root
    case pos =>
      subst hr
      simp [ancestors, parent?, hc, hp.eq_nil_of_root, ancestors.above]
    case neg =>
      have ha : p.parent? = some (ofComponents cs) := by
        rw [parent?, hc, List.getLast?_concat, List.dropLast_concat]
        cases c
        case root => exact absurd rfl hr
        all_goals rfl
      have hn : (ofComponents cs).components = cs :=
        components_ofComponents (hp.of_prefix (List.prefix_append ..))
      rw [ha, ancestors, hc, above_concat hr, Option.elim_some, ancestors, hn, List.map_cons,
        List.reverse_reverse]

theorem getElem?_ancestors : p.ancestors[i]? = p.ancestor? i := by
  induction i generalizing p
  case zero => rw [ancestors_eq, List.getElem?_cons_zero, ancestor?]
  case succ i ih =>
    rw [ancestors_eq, List.getElem?_cons_succ, ancestor?]
    cases p.parent?
    case none   => rfl
    case some q => exact ih

end CollectionPlan.FilePath
