import CollectionPlan.Source.Tree
import Mathlib.Data.List.Sort
import Mathlib.Data.String.Basic

namespace CollectionPlan

-- Elements that are grouped by distinct keys stay the same elements.
theorem perm_flatMap_filter [DecidableEq κ] {key : α → κ} {keys : List κ} {xs : List α} (hn : keys.Nodup)
    (hk : ∀ x ∈ xs, key x ∈ keys) : (keys.flatMap fun k => xs.filter (key · = k)).Perm xs := by
  induction keys generalizing xs
  case nil =>
    have hx : xs = [] := List.eq_nil_iff_forall_not_mem.mpr fun x hx => by simpa using hk x hx
    simp [hx]
  case cons k keys ih =>
    have ⟨hk', hn⟩ := List.nodup_cons.mp hn
    -- The groups of the other keys are found among the elements that are left.
    have hrest : ∀ x ∈ xs.filter (fun x => !decide (key x = k)), key x ∈ keys := by
      intro x hx
      have ⟨hx, hne⟩ := List.mem_filter.mp hx
      exact (List.mem_cons.mp (hk x hx)).resolve_left (by simpa using hne)
    have hgroups : keys.flatMap (fun k' => xs.filter (key · = k')) =
        keys.flatMap fun k' => (xs.filter (fun x => !decide (key x = k))).filter (key · = k') := by
      refine List.flatMap_congr fun k' hm => ?_
      rw [List.filter_filter]
      refine List.filter_congr fun x _ => ?_
      by_cases he : key x = k'
      case pos => simp [he, show k' ≠ k from fun h => hk' (h ▸ hm)]
      case neg => simp [he]
    rw [List.flatMap_cons, hgroups]
    exact ((ih hn hrest).append_left _).trans (List.filter_append_perm _ _)

namespace SourcePackage

variable {name n : String} {names names' : List String}

@[simp]
theorem mem_insertName : n ∈ insertName name names ↔ n = name ∨ n ∈ names := by
  induction names
  case nil => simp [insertName]
  case cons n' names ih =>
    unfold insertName
    split
    case isTrue => simp
    case isFalse =>
      split
      case isTrue h  => simp [h]
      case isFalse   => simp only [List.mem_cons, ih]; tauto

@[simp]
theorem mem_orderedNames : n ∈ orderedNames names ↔ n ∈ names := by
  induction names
  case nil             => simp [orderedNames]
  case cons n' names ih => simpa [orderedNames] using or_congr_right ih

theorem pairwise_insertName (h : names.Pairwise (· < ·)) : (insertName name names).Pairwise (· < ·) := by
  induction names
  case nil => simp [insertName]
  case cons n' names ih =>
    have ⟨hn, hp⟩ := List.pairwise_cons.mp h
    unfold insertName
    split
    case isTrue hlt =>
      refine List.pairwise_cons.mpr ⟨List.forall_mem_cons.mpr ⟨hlt, fun n hm => ?_⟩, h⟩
      exact hlt.trans (hn n hm)
    case isFalse hlt =>
      split
      case isTrue => exact h
      case isFalse hne =>
        refine List.pairwise_cons.mpr ⟨fun n hm => ?_, ih hp⟩
        cases mem_insertName.mp hm
        case inl he => exact he ▸ lt_of_le_of_ne (not_lt.mp hlt) (Ne.symm hne)
        case inr hm => exact hn n hm

theorem pairwise_orderedNames : (orderedNames names).Pairwise (· < ·) := by
  induction names
  case nil     => exact .nil
  case cons ih => exact pairwise_insertName ih

-- Neither the order of names nor how often they occur matters.
theorem orderedNames_eq (h : ∀ n, n ∈ names ↔ n ∈ names') : orderedNames names = orderedNames names' :=
  pairwise_orderedNames.eq_of_mem_iff pairwise_orderedNames (by simpa using h)

end SourcePackage

-- The first list has the types of the second one in the order of their names, and types of one name
-- in the order in which they are declared.
structure OrderedByName (types source : List DeclaredType) : Prop where
  perm      : types.Perm source
  ascending : types.Pairwise fun t t' => t.name ≤ t'.name
  stable    : ∀ name, types.filter (·.name = name) = source.filter (·.name = name)

namespace OrderedByName

variable {types types' source source' : List DeclaredType}

-- A class of equal names is ordered, so that it stays a part of the sorted list.
theorem mergeSort : OrderedByName (source.mergeSort fun t t' => t.name ≤ t'.name) source := by
  have htrans : ∀ a b c : DeclaredType,
      decide (a.name ≤ b.name) → decide (b.name ≤ c.name) → decide (a.name ≤ c.name) := by
    simpa using fun a b c => le_trans (α := String)
  have htotal : ∀ a b : DeclaredType, decide (a.name ≤ b.name) || decide (b.name ≤ a.name) := by
    simpa using fun a b => le_total (α := String) _ _
  have hperm := source.mergeSort_perm fun t t' => t.name ≤ t'.name
  refine ⟨hperm, ?_, fun name => ?_⟩
  case refine_1 => simpa using List.pairwise_mergeSort htrans htotal source
  case refine_2 =>
    have hclass : (source.filter (·.name = name)).Pairwise fun t t' => decide (t.name ≤ t'.name) := by
      refine List.pairwise_filter.mpr (List.pairwise_of_forall fun t t' ht ht' => ?_)
      simp only [decide_eq_true_eq] at ht ht' ⊢
      exact le_of_eq (ht.trans ht'.symm)
    have hsub := (List.sublist_mergeSort htrans htotal hclass List.filter_sublist).filter (·.name = name)
    simp only [List.filter_filter, Bool.and_self] at hsub
    exact (hsub.eq_of_length (hperm.filter _).length_eq.symm).symm

theorem filter (h : OrderedByName types source) (p : DeclaredType → Bool) :
    OrderedByName (types.filter p) (source.filter p) where
  perm        := h.perm.filter p
  ascending   := h.ascending.filter p
  stable name := by rw [List.filter_comm, h.stable, List.filter_comm]

-- If no name is declared twice, the declared types determine their order.
theorem unique (h : OrderedByName types source) (h' : OrderedByName types' source')
    (hp : source.Perm source') (hn : (source.map (·.name)).Nodup) : types = types' := by
  have hp' : types.Perm types' := h.perm.trans (hp.trans h'.perm.symm)
  refine List.Perm.eq_of_pairwise (fun t t' ht ht' hle hle' => ?_) h.ascending h'.ascending hp'
  have hm  := h.perm.mem_iff.mp ht
  have hm' := h.perm.mem_iff.mp (hp'.mem_iff.mpr ht')
  exact List.inj_on_of_nodup_map hn hm hm' (le_antisymm hle hle')

end OrderedByName
end CollectionPlan
