import CollectionPlan.Proofs.TypeGraph

namespace CollectionPlan

-- An expression is part of another one, be it below a pointer or an argument of a collection.
@[mk_iff]
inductive TypeExpr.Occurs (x : TypeExpr) : TypeExpr → Prop
  | self    : Occurs x x
  | pointer (h : Occurs x e) : Occurs x (.pointer e)
  | wrapper (h : Occurs x e) : Occurs x (.wrapper e)
  | array   (h : Occurs x e) : Occurs x (.array e)
  | elem    (he : e ∈ es) (h : Occurs x e) : Occurs x (.tuple es)
  | arg     (he : e ∈ args) (h : Occurs x e) : Occurs x (.dynamic name args)

namespace TypeExpr

theorem mem_names_iff {e : TypeExpr} : n ∈ e.names ↔ Occurs (.named n) e := by
  induction e <;> rw [occurs_iff] <;> simp_all [names, namesOf_eq]
  case tuple ih | dynamic ih => exact exists_congr fun e => and_congr_right (ih e)
  case named                 => exact eq_comm

theorem occurs_of_unknown? {e : TypeExpr} (h : e.unknown? = some t) : Occurs (.unknown t) e := by
  induction e <;> simp_all [unknown?, unknownOf?_eq]
  case unknown    => exact .self
  case pointer ih => exact .pointer ih
  case wrapper ih => exact .wrapper ih
  case array ih   => exact .array ih
  case tuple ih =>
    have ⟨e, he, h⟩ := List.exists_of_findSome?_eq_some h
    exact .elem he (ih e he h)
  case dynamic ih =>
    have ⟨e, he, h⟩ := List.exists_of_findSome?_eq_some h
    exact .arg he (ih e he h)

theorem unknown?_ne_none (h : Occurs (.unknown t) e) : e.unknown? ≠ none := by
  induction h <;> simp_all [unknown?, unknownOf?_eq]
  case elem he _ ih | arg he _ ih => exact ⟨_, he, ih⟩

theorem unknown?_eq_none_iff {e : TypeExpr} : e.unknown? = none ↔ ∀ t, ¬Occurs (.unknown t) e where
  mp h _ ho := unknown?_ne_none ho h
  mpr h     := by
    cases hu : e.unknown?
    case none   => rfl
    case some t => exact absurd (occurs_of_unknown? hu) (h t)

end TypeExpr

namespace TypeModel

variable {m : TypeModel}

-- Every name in an expression is declared.
def Declared (m : TypeModel) (e : TypeExpr) : Prop :=
  ∀ n, TypeExpr.Occurs (.named n) e → m.declares n

theorem missing?_eq_none_iff : m.missing? e = none ↔ m.Declared e := by
  simp [missing?, Declared, ←TypeExpr.mem_names_iff]

theorem occurs_of_missing? (h : m.missing? e = some n) :
    TypeExpr.Occurs (.named n) e ∧ ¬m.declares n := by
  have hm := List.mem_of_find?_eq_some h
  have hn := List.find?_some h
  exact ⟨TypeExpr.mem_names_iff.mp hm, by simpa using hn⟩

-- Aliases are replaced one after the other, and an expression is left.
inductive Chain (m : TypeModel) : TypeExpr → List String → TypeExpr → Prop
  | refl : Chain m e [] e
  | step (ha : m.alias? n = some t) (h : Chain m t as u) : Chain m (.named n) (n :: as) u

-- The aliases that are replaced have targets in which every name is declared.
def TargetsDeclared (m : TypeModel) (as : List String) : Prop :=
  ∀ a ∈ as, ∀ t, m.alias? a = some t → m.Declared t

namespace TargetsDeclared

theorem nil : m.TargetsDeclared [] := by
  simp [TargetsDeclared]

theorem cons (ha : m.alias? n = some t) (hd : m.Declared t) (h : m.TargetsDeclared as) :
    m.TargetsDeclared (n :: as) := by
  refine List.forall_mem_cons.mpr ⟨fun t' ha' => ?_, h⟩
  cases ha.symm.trans ha'
  exact hd

end TargetsDeclared

-- An expression at which following aliases ends.
def IsUnderlying (m : TypeModel) (u : TypeExpr) : Prop :=
  ∀ n, u = .named n → m.declares n ∧ ¬m.IsAlias n

namespace Chain

theorem isAlias_of_mem (h : m.Chain e as u) (ha : a ∈ as) : m.IsAlias a := by
  induction h
  case refl          => contradiction
  case step ht _ ih  =>
    cases ha
    case head   => exact isAlias_of_alias? ht
    case tail h => exact ih h

-- A chain goes through every alias that it replaces.
theorem split (h : m.Chain e as u) (ha : a ∈ as) :
    ∃ as₁ as₂, as = as₁ ++ a :: as₂ ∧ m.Chain e as₁ (.named a) ∧ m.Chain (.named a) (a :: as₂) u := by
  induction h
  case refl => contradiction
  case step n t as u ht h ih =>
    cases ha
    case head   => exact ⟨[], as, rfl, .refl, .step ht h⟩
    case tail h =>
      have ⟨as₁, as₂, he, h₁, h₂⟩ := ih h
      exact ⟨n :: as₁, as₂, by simp [he], .step ht h₁, h₂⟩

end Chain

-- Following aliases as rules: with the names in `seen` already replaced, an expression leads to a
-- result. There is no budget, so that a derivation is a loop that comes to its end.
inductive Follow (m : TypeModel) : List String → TypeExpr → Except ResolveError TypeExpr → Prop
  | unnamed    (hn : ∀ n, e ≠ .named n) : Follow m seen e (.ok e)
  | undeclared (hd : m.find? n = none) : Follow m seen (.named n) (.error (.undeclared n))
  | declared   (hd : m.find? n = some d) (ha : ¬m.IsAlias n) : Follow m seen (.named n) (.ok (.named n))
  | cycle      (ha : m.alias? n = some t) (hs : n ∈ seen) :
    Follow m seen (.named n) (.error (.aliasCycle n))
  | dangling   (ha : m.alias? n = some t) (hs : n ∉ seen) (hm : m.missing? t = some x) :
    Follow m seen (.named n) (.error (.undeclared x))
  | next       (ha : m.alias? n = some t) (hs : n ∉ seen) (hm : m.missing? t = none)
    (h : Follow m (n :: seen) t r) : Follow m seen (.named n) r

-- Every alias that is replaced leaves one declaration less, so that the budget lasts.
theorem follow_follow {fuel : Nat} {seen : List String} {e : TypeExpr} (hf : m.unvisited seen ≤ fuel) :
    m.Follow seen e (m.follow fuel seen e) := by
  by_cases hn : ∃ n, e = .named n
  case neg =>
    cases e
    case named n => exact absurd ⟨n, rfl⟩ hn
    all_goals simpa [follow] using Follow.unnamed (by simp)
  obtain ⟨n, rfl⟩ := hn
  cases hd : m.find? n
  case none => simpa [follow, declares, hd] using Follow.undeclared hd
  case some d =>
    cases ha : m.alias? n
    case none =>
      simpa [follow, declares, hd, ha] using Follow.declared hd (by simp [IsAlias, ha])
    case some t =>
      by_cases hs : n ∈ seen
      case pos => simpa [follow, declares, hd, ha, hs] using Follow.cycle ha hs
      case neg =>
        have hlt := unvisited_cons_lt (mem_names_of_find? hd) hs
        cases fuel
        case zero => omega
        case succ fuel =>
          have hb : m.unvisited (n :: seen) ≤ fuel := by omega
          cases hm : m.missing? t
          case some x =>
            simpa [follow, declares, hd, ha, hs, checkDeclared, hm, bind, Except.bind] using Follow.dangling ha hs hm
          case none =>
            have h := follow_follow (e := t) hb
            simpa [follow, declares, hd, ha, hs, checkDeclared, hm, bind, Except.bind] using Follow.next ha hs hm h

theorem follow_underlying (m : TypeModel) (e : TypeExpr) : m.Follow [] e (m.underlying e) :=
  follow_follow (unvisited_le_size [])

namespace Follow

theorem deterministic (h₁ : m.Follow seen e r₁) (h₂ : m.Follow seen e r₂) : r₁ = r₂ := by
  induction h₁ <;> cases h₂ <;> simp_all [IsAlias, alias?]

theorem ne_malformed (h : m.Follow seen e r) : r ≠ .error (.malformed text) := by
  induction h <;> simp_all

-- A loop that succeeds has gone down a chain without an alias twice.
theorem chain_of_ok (h : m.Follow seen e (.ok u)) :
    ∃ as, m.Chain e as u ∧ as.Nodup ∧ (∀ a ∈ as, a ∉ seen) ∧ m.TargetsDeclared as ∧ m.IsUnderlying u := by
  generalize hr : Except.ok u = r at h
  induction h <;> cases hr
  case unnamed hn =>
    exact ⟨[], .refl, .nil, by simp, .nil, fun n he => absurd he (hn n)⟩
  case declared hd ha =>
    refine ⟨[], .refl, .nil, by simp, .nil, fun n he => ?_⟩
    cases he
    exact ⟨declares_of_find? hd, ha⟩
  case next n _ _ ha hs hm _ ih =>
    have ⟨as, hc, hn, hv, ht, hu⟩ := ih rfl
    simp only [List.mem_cons, not_or] at hv
    have hn' : n ∉ as := fun h => (hv n h).left rfl
    have hv' : ∀ a ∈ n :: as, a ∉ _ := List.forall_mem_cons.mpr ⟨hs, fun a h => (hv a h).right⟩
    exact ⟨n :: as, .step ha hc, List.nodup_cons.mpr ⟨hn', hn⟩, hv', ht.cons ha (missing?_eq_none_iff.mp hm), hu⟩

theorem ok_of_chain (hc : m.Chain e as u) (hn : as.Nodup) (hs : ∀ a ∈ as, a ∉ seen)
    (ht : m.TargetsDeclared as) (hu : m.IsUnderlying u) : m.Follow seen e (.ok u) := by
  induction hc generalizing seen
  case refl e =>
    by_cases he : ∃ n, e = .named n
    case neg => exact .unnamed fun n h => he ⟨n, h⟩
    case pos =>
      obtain ⟨n, rfl⟩ := he
      have ⟨hd, ha⟩ := hu n rfl
      have ⟨d, hd⟩ := Option.isSome_iff_exists.mp hd
      exact .declared hd ha
  case step n t as u ha hc ih =>
    have ⟨hn', hn⟩ := List.nodup_cons.mp hn
    have ⟨hs', hs⟩ := List.forall_mem_cons.mp hs
    have hm := missing?_eq_none_iff.mpr <| ht n (List.mem_cons_self ..) t ha
    refine .next ha hs' hm <| ih hn (fun a h => ?_) (fun a h => ht a (List.mem_cons_of_mem _ h)) hu
    simp only [List.mem_cons, not_or]
    exact ⟨fun he => hn' (he ▸ h), hs a h⟩

-- A cycle is found at an alias that the chain, or what was replaced before, went through.
theorem chain_of_aliasCycle (h : m.Follow seen e (.error (.aliasCycle x))) :
    ∃ as, m.Chain e as (.named x) ∧ m.IsAlias x ∧ x ∈ as ++ seen ∧ m.TargetsDeclared as := by
  generalize hr : Except.error (ResolveError.aliasCycle x) = r at h
  induction h <;> cases hr
  case cycle ha hs => exact ⟨[], .refl, isAlias_of_alias? ha, by simpa, .nil⟩
  case next n _ _ ha _ hm _ ih =>
    have ⟨as, hc, hx, hv, ht⟩ := ih rfl
    exact ⟨n :: as, .step ha hc, hx, by simp_all; tauto, ht.cons ha (missing?_eq_none_iff.mp hm)⟩

theorem chain_of_undeclared (h : m.Follow seen e (.error (.undeclared x))) :
    ¬m.declares x ∧ ∃ as u, m.Chain e as u ∧
      (TypeExpr.Occurs (.named x) e ∨
        ∃ a ∈ as, ∃ t, m.alias? a = some t ∧ TypeExpr.Occurs (.named x) t) := by
  generalize hr : Except.error (ResolveError.undeclared x) = r at h
  induction h <;> cases hr
  case undeclared hd => exact ⟨by simp [declares, hd], [], _, .refl, .inl .self⟩
  case dangling n t _ ha hs hm =>
    obtain ⟨ho, hd⟩ := occurs_of_missing? hm
    exact ⟨hd, [n], t, .step ha .refl, .inr ⟨n, by simp, t, ha, ho⟩⟩
  case next n t _ ha _ _ _ ih =>
    obtain ⟨hd, as, u, hc, ho⟩ := ih rfl
    refine ⟨hd, n :: as, u, .step ha hc, .inr ?_⟩
    cases ho
    case inl ho => exact ⟨n, by simp, t, ha, ho⟩
    case inr ho =>
      obtain ⟨a, h, ho⟩ := ho
      exact ⟨a, by simp [h], ho⟩

end Follow

theorem follow_iff : m.Follow [] e r ↔ m.underlying e = r where
  mp h  := (follow_underlying m e).deterministic h
  mpr h := h ▸ follow_underlying m e

-- Aliases lead from an expression to what is left of it.
theorem underlying_eq_ok_iff : m.underlying e = .ok u ↔
    ∃ as, m.Chain e as u ∧ as.Nodup ∧ m.TargetsDeclared as ∧ m.IsUnderlying u := by
  rw [←follow_iff]
  constructor
  case mp =>
    intro h
    have ⟨as, hc, hn, _, ht, hu⟩ := h.chain_of_ok
    exact ⟨as, hc, hn, ht, hu⟩
  case mpr =>
    intro ⟨as, hc, hn, ht, hu⟩
    exact .ok_of_chain hc hn (by simp) ht hu

theorem underlying_of_isUnderlying (h : m.IsUnderlying u) : m.underlying u = .ok u :=
  underlying_eq_ok_iff.mpr ⟨[], .refl, .nil, .nil, h⟩

end TypeModel
end CollectionPlan
