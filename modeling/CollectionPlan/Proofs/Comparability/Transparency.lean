import CollectionPlan.Proofs.Comparability.Cycle
import CollectionPlan.Proofs.Resolution.Chain

open Relation

namespace CollectionPlan.TypeModel

variable {m : TypeModel} {visiting : List String}

namespace Chain

theorem reaches (h : m.Chain e as u) : m.Reaches e u := by
  induction h
  case refl => exact .refl
  case step ha _ ih =>
    have ⟨d, hd, _, hm⟩ := alias?_eq_some ha
    exact .head (.member hd (by simp [hm])) ih

theorem deterministic (h₁ : m.Chain e as₁ u₁) (h₂ : m.Chain e as₂ u₂)
    (hu₁ : m.IsUnderlying u₁) (hu₂ : m.IsUnderlying u₂) : as₁ = as₂ ∧ u₁ = u₂ := by
  induction h₁ generalizing as₂
  case refl =>
    cases h₂
    case refl    => exact ⟨rfl, rfl⟩
    case step ha _ => exact absurd (isAlias_of_alias? ha) (hu₁ _ rfl).right
  case step ha _ ih =>
    cases h₂
    case refl       => exact absurd (isAlias_of_alias? ha) (hu₂ _ rfl).right
    case step ha' h =>
      cases ha.symm.trans ha'
      have ⟨has, hu⟩ := ih h hu₁
      exact ⟨has ▸ rfl, hu⟩

-- The search goes down a chain with the aliases of the chain on its path.
theorem refuted_iff (h : m.Chain e as u) (hn : as.Nodup) (hv : ∀ a ∈ as, a ∉ visiting) :
    m.Refuted visiting e ↔ m.Refuted (as.reverse ++ visiting) u := by
  induction h generalizing visiting
  case refl => simp
  case step n t as u ha _ ih =>
    have ⟨d, hd, _, hm⟩ := alias?_eq_some ha
    have ⟨hn', hn⟩ := List.nodup_cons.mp hn
    have ⟨hv', hv⟩ := List.forall_mem_cons.mp hv
    have hv'' : ∀ a ∈ as, a ∉ n :: visiting := fun a h => by
      simp only [List.mem_cons, not_or]
      exact ⟨fun he => hn' (he ▸ h), hv a h⟩
    rw [refuted_of_enter hd hv', hm]
    simpa using ih hn hv''

-- A way back to an alias of a chain decides against what the chain leads to.
theorem refuted_of_reachesOutside (h : m.Chain e as u) (ha : a ∈ as)
    (hp : m.ReachesOutside visiting u (.named a)) : m.Refuted (as.reverse ++ visiting) u := by
  have ⟨n, hn, hp⟩ : ∃ n ∈ as, m.ReachesOutside (as.reverse ++ visiting) u (.named n) := by
    cases hp.first_visit as.reverse
    case inl hp => exact ⟨a, ha, hp⟩
    case inr hp => simpa using hp
  exact .of_reachesOutside hp fun _ hs => .back (h.isAlias_of_mem hn) (hs <| by simp [hn])

end Chain

-- Names that cannot be reached do not matter for a search.
theorem Refuted.widen (h : m.Refuted visiting e) (hs : visiting ⊆ v)
    (hr : ∀ n ∈ v, n ∉ visiting → ¬m.Reaches e (.named n)) : m.Refuted v e := by
  induction h generalizing v
  case part hi            => exact .part hi
  case back ha hv         => exact .back ha (hs hv)
  case inside hn hc _ ih  =>
    exact .inside hn hc <| ih hs fun n hv hv' hp => hr n hv hv' (.head hc hp)
  case member n _ hv hc _ ih =>
    have hv' : n ∉ v := fun h => hr n h hv .refl
    refine .member hv' hc <| ih (List.cons_subset_cons n hs) fun n' h h' hp => ?_
    cases h
    case head   => exact h' (List.mem_cons_self ..)
    case tail h => exact hr n' h (fun hv => h' (List.mem_cons_of_mem _ hv)) (.head hc hp)

-- A path from what aliases leave of an expression leads back to one of these aliases, and it looks into
-- none of the given declarations.
def Reenters (m : TypeModel) (ns : List String) (e : TypeExpr) : Prop :=
  ∃ as u, m.Chain e as u ∧ m.IsUnderlying u ∧ ∃ a ∈ as, m.ReachesOutside ns u (.named a)

section Underlying

variable {e u : TypeExpr} (hu : m.underlying e = .ok u)
include hu

-- Below names that are no aliases only a way back to a replaced alias sets an expression apart from
-- what is left of it, if that is comparable.
theorem refuted_iff_reenters (hv : ∀ n ∈ visiting, ¬m.IsAlias n) (hc : m.comparable u = true) :
    m.Refuted visiting e ↔ m.Reenters visiting e := by
  have ⟨as, ha, hn, _, hu⟩ := underlying_eq_ok_iff.mp hu
  have ⟨hi, hl⟩ := comparable_iff_paths.mp hc
  rw [ha.refuted_iff hn fun a h h' => hv a h' (ha.isAlias_of_mem h)]
  constructor
  case mp =>
    intro h
    obtain ⟨e', hp, hi'⟩ | ⟨a, hm, ha', hp⟩ | ⟨a, ha', hl'⟩ := refuted_iff.mp h
    · exact absurd hi' (hi e' hp.reaches)
    · cases List.mem_append.mp hm
      case inl hm =>
        have hp := ReachesOutside.mono hp (List.subset_append_right ..)
        exact ⟨as, u, ha, hu, a, by simpa using hm, hp⟩
      case inr hm => exact absurd ha' (hv a hm)
    · exact absurd (hl'.mono <| List.nil_subset _) (hl a ha')
  case mpr =>
    intro ⟨as', u', ha', hu', a, hm, hp⟩
    obtain ⟨rfl, rfl⟩ := ha.deterministic ha' hu hu'
    exact ha.refuted_of_reachesOutside hm hp

-- What is left of a comparable expression is comparable on its own.
theorem comparable_of_comparable (hc : m.comparable e = true) : m.comparable u = true := by
  have ⟨as, ha, hn, _⟩ := underlying_eq_ok_iff.mp hu
  rw [comparable_iff, ha.refuted_iff hn (by simp)] at hc
  rw [comparable_iff]
  intro h
  by_cases hp : ∃ a ∈ as, m.Reaches u (.named a)
  case neg => exact hc <| h.widen (by simp) fun a hm _ hp' => hp ⟨a, by simpa using hm, hp'⟩
  case pos =>
    have ⟨a, hm, hp⟩ := hp
    exact hc <| ha.refuted_of_reachesOutside hm (reachesOutside_nil.mpr hp)

theorem comparable_iff_underlying : m.comparable e = true ↔
    m.comparable u = true ∧ ¬m.Reenters [] e := by
  constructor
  case mp =>
    intro h
    have hc := comparable_of_comparable hu h
    exact ⟨hc, (refuted_iff_reenters hu (by simp) hc).not.mp (comparable_iff.mp h)⟩
  case mpr =>
    intro ⟨hc, hr⟩
    exact comparable_iff.mpr <| (refuted_iff_reenters hu (by simp) hc).not.mpr hr

-- The replaced aliases matter exactly if what they leave is comparable and leads back to one of them.
theorem comparable_iff_comparable_iff : (m.comparable e = true ↔ m.comparable u = true) ↔
    (m.comparable u = true → ¬m.Reenters [] e) := by
  rw [comparable_iff_underlying hu]
  tauto

end Underlying

-- What aliases leave of each expression is comparable on its own.
def AllComparable (m : TypeModel) (es : List TypeExpr) : Prop :=
  ∀ e ∈ es, ∀ u, m.underlying e = .ok u → m.comparable u = true

theorem allComparable_singleton (hu : m.underlying e = .ok u) :
    m.AllComparable [e] ↔ m.comparable u = true := by
  simp [AllComparable, hu]

theorem comparable_wrapper : m.comparable (.wrapper e) = m.comparable e :=
  rfl

theorem comparable_array : m.comparable (.array e) = m.comparable e :=
  rfl

theorem comparable_tuple : m.comparable (.tuple es) = true ↔ ∀ e ∈ es, m.comparable e = true := by
  simp [comparable, TypeExpr.comparableWith, TypeExpr.allComparableWith_eq]

theorem comparable_tuple_iff (hu : ∀ e ∈ es, ∃ u, m.underlying e = .ok u) :
    m.comparable (.tuple es) = true ↔ m.AllComparable es ∧ ∀ e ∈ es, ¬m.Reenters [] e := by
  rw [comparable_tuple]
  constructor
  case mp =>
    intro h
    refine ⟨fun e he u hu => comparable_of_comparable hu (h e he), fun e he => ?_⟩
    have ⟨u, hu⟩ := hu e he
    exact ((comparable_iff_underlying hu).mp (h e he)).right
  case mpr =>
    intro ⟨hc, hr⟩ e he
    have ⟨u, hu⟩ := hu e he
    exact (comparable_iff_underlying hu).mpr ⟨hc e he u hu, hr e he⟩

section Declared

variable {d : Declaration} (hd : m.find? n = some d)
include hd

theorem comparable_named : m.comparable (.named n) = true ↔ ∀ t ∈ d.members, ¬m.Refuted [n] t := by
  simp [comparable_iff, refuted_of_enter hd]

-- Members that are comparable on their own make a comparable type unless one of them leads back to an
-- alias that it stands for, without passing the type.
theorem comparable_named_of_members (hn : ¬m.IsAlias n)
    (hu : ∀ t ∈ d.members, ∃ u, m.underlying t = .ok u) (hc : m.AllComparable d.members) :
    m.comparable (.named n) = true ↔ ∀ t ∈ d.members, ¬m.Reenters [n] t := by
  rw [comparable_named hd]
  refine forall₂_congr fun t ht => ?_
  have ⟨u, hu⟩ := hu t ht
  exact (refuted_iff_reenters hu (by simpa using hn) (hc t ht u hu)).not

-- The members of a comparable type are comparable on their own unless a path from one of them enters
-- a cycle at an alias.
theorem allComparable_of_named (hc : m.comparable (.named n) = true) :
    m.AllComparable d.members ↔
      ∀ t ∈ d.members, ∀ u, m.underlying t = .ok u → ∀ a, m.IsAlias a → ¬m.EntersCycle [] u a := by
  have ⟨hi, _⟩ := comparable_iff_paths.mp hc
  refine forall₂_congr fun t ht => forall₂_congr fun u hu => ?_
  have ⟨as, ha, _⟩ := underlying_eq_ok_iff.mp hu
  have hp : m.Reaches (.named n) u := .head (.member hd ht) ha.reaches
  rw [comparable_iff_paths]
  exact and_iff_right fun e' hp' => hi e' (hp.trans hp')

end Declared

-- Aliases are transparent for comparability as long as nothing leads back to them. For an owning type
-- and for a tuple this is what it takes, and nothing else; for a declared type the cycles that pass the
-- type itself are set aside in one direction, and in the other it takes that no cycle is entered at
-- an alias.
theorem comparable_transparent_iff (m : TypeModel) :
    (∀ e u, m.underlying e = .ok u →
      ((m.comparable (.wrapper e) = true ↔ m.comparable u = true) ↔
        (m.comparable u = true → ¬m.Reenters [] e)) ∧
      ((m.comparable (.array e) = true ↔ m.comparable u = true) ↔
        (m.comparable u = true → ¬m.Reenters [] e))) ∧
    (∀ es, (∀ e ∈ es, ∃ u, m.underlying e = .ok u) →
      ((m.comparable (.tuple es) = true ↔ m.AllComparable es) ↔
        (m.AllComparable es → ∀ e ∈ es, ¬m.Reenters [] e))) ∧
    (∀ n d, m.find? n = some d → ¬m.IsAlias n → (∀ t ∈ d.members, ∃ u, m.underlying t = .ok u) →
      ((m.comparable (.named n) = true ↔ m.AllComparable d.members) ↔
        (m.AllComparable d.members → ∀ t ∈ d.members, ¬m.Reenters [n] t) ∧
        (m.comparable (.named n) = true →
          ∀ t ∈ d.members, ∀ u, m.underlying t = .ok u → ∀ a, m.IsAlias a → ¬m.EntersCycle [] u a))) := by
  refine ⟨fun e u hu => ?_, fun es hu => ?_, fun n d hd hn hu => ?_⟩
  case refine_1 =>
    rw [comparable_wrapper, comparable_array]
    exact ⟨comparable_iff_comparable_iff hu, comparable_iff_comparable_iff hu⟩
  case refine_2 =>
    rw [comparable_tuple_iff hu]
    tauto
  case refine_3 =>
    have hm := comparable_named_of_members hd hn hu
    have ht := allComparable_of_named hd
    tauto

-- A struct that refers to itself through an alias.
def aliasedList : TypeModel where
  decls := [
    ⟨"Link", .alias (.wrapper (.named "Node"))⟩,
    ⟨"Node", .struct [⟨"next", .wrapper (.named "Link"), ""⟩]⟩]
  nodup := by decide

-- Beside the alias, which is comparable, there is a struct that holds no more than it.
def aliasedListHead : TypeModel :=
  aliasedList.declare ⟨"Head", .struct [⟨"first", .named "Link", ""⟩]⟩

-- In each position it is the way back through the alias that tells the two apart.
theorem comparable_transparent_iff_aliasedList :
    (aliasedList.underlying (.named "Link") = .ok (.wrapper (.named "Node")) ∧
      aliasedList.Reenters [] (.named "Link")) ∧
    (aliasedList.AllComparable [.named "Link"] ∧ ∃ e ∈ [.named "Link"], aliasedList.Reenters [] e) ∧
    (aliasedListHead.AllComparable [.named "Link"] ∧
      ∃ t ∈ [.named "Link"], aliasedListHead.Reenters ["Head"] t) := by
  have hu : aliasedList.underlying (.named "Link") = .ok (.wrapper (.named "Node")) := by rfl
  have hu' : aliasedListHead.underlying (.named "Link") = .ok (.wrapper (.named "Node")) := by rfl
  have hl  := (allComparable_singleton hu).mpr (by decide)
  have hl' := (allComparable_singleton hu').mpr (by decide)
  have ⟨hw, ht, _⟩ := comparable_transparent_iff aliasedList
  have ⟨_, _, hn⟩ := comparable_transparent_iff aliasedListHead
  refine ⟨⟨hu, ?_⟩, ⟨hl, ?_⟩, hl', ?_⟩
  case refine_1 =>
    by_contra hr
    have hc := (hw _ _ hu).left.mpr fun _ => hr
    exact absurd (hc.mpr (by decide)) (by decide)
  case refine_2 =>
    by_contra hr
    have hc := (ht [.named "Link"] (by simp [hu])).mpr fun _ e he h => hr ⟨e, he, h⟩
    exact absurd (hc.mpr hl) (by decide)
  case refine_3 =>
    by_contra hr
    have hb : ¬aliasedListHead.comparable (.named "Head") = true := by decide
    have ha : ¬aliasedListHead.IsAlias "Head" := (isAlias_iff rfl).not.mpr (by decide)
    have hc := (hn "Head" _ rfl ha (by simp [Declaration.members, hu'])).mpr
      ⟨fun _ t ht h => hr ⟨t, ht, h⟩, by simp [hb]⟩
    exact hb (hc.mpr hl')

theorem comparable_not_transparent :
    (aliasedList.underlying (.named "Link") = .ok (.wrapper (.named "Node")) ∧
      ¬(aliasedList.comparable (.wrapper (.named "Link")) = true ↔
        aliasedList.comparable (.wrapper (.named "Node")) = true) ∧
      ¬(aliasedList.comparable (.array (.named "Link")) = true ↔
        aliasedList.comparable (.wrapper (.named "Node")) = true) ∧
      ¬(aliasedList.comparable (.tuple [.named "Link"]) = true ↔
        aliasedList.comparable (.wrapper (.named "Node")) = true)) ∧
    (aliasedList.underlying (.wrapper (.named "Link")) = .ok (.wrapper (.named "Link")) ∧
      ¬(aliasedList.comparable (.named "Node") = true ↔
        aliasedList.comparable (.wrapper (.named "Link")) = true)) ∧
    (aliasedListHead.underlying (.named "Link") = .ok (.wrapper (.named "Node")) ∧
      ¬(aliasedListHead.comparable (.named "Head") = true ↔
        aliasedListHead.comparable (.wrapper (.named "Node")) = true)) :=
  ⟨⟨rfl, by decide, by decide, by decide⟩, ⟨rfl, by decide⟩, ⟨rfl, by decide⟩⟩

end CollectionPlan.TypeModel
