import CollectionPlan.Proofs.Resolution.Chain

open CollectionPlan.TypeExpr

namespace CollectionPlan.TypeModel

variable {m : TypeModel} {e : TypeExpr}

-- A text resolves like the expression that it is read as.
theorem resolve_eq (hp : (Grammar.type? n).map ({} : Scope).lower = some e) :
    m.resolve n = m.resolveExpr n e := by
  obtain ⟨tree, ht, rfl⟩ := Option.map_eq_some_iff.mp hp
  simp [resolve, ht]

-- The outcome of a resolution by the first check that an expression does not pass.
inductive Outcome (m : TypeModel) (n : String) (e : TypeExpr) : Except ResolveError TypeHandle → Prop
  | unmodelled (hu : e.unknown? = some text) : Outcome m n e (.error (.undeclared text))
  | missing    (hu : e.unknown? = none) (hm : m.missing? e = some x) :
    Outcome m n e (.error (.undeclared x))
  | failed     (hu : e.unknown? = none) (hm : m.missing? e = none) (hr : m.underlying e = .error err) :
    Outcome m n e (.error err)
  | unknown    (hu : e.unknown? = none) (hm : m.missing? e = none)
    (hr : m.underlying e = .ok (.unknown text)) : Outcome m n e (.error (.undeclared text))
  | resolved   (hu : e.unknown? = none) (hm : m.missing? e = none) (hr : m.underlying e = .ok u)
    (hn : ∀ text, u ≠ .unknown text) : Outcome m n e (.ok ⟨n, u⟩)

theorem outcome_resolveExpr (m : TypeModel) (n : String) (e : TypeExpr) :
    m.Outcome n e (m.resolveExpr n e) := by
  unfold resolveExpr checkDeclared
  cases hu : e.unknown?
  case some => exact .unmodelled hu
  cases hm : m.missing? e
  case some => exact .missing hu hm
  cases hr : m.underlying e
  case error => exact .failed hu hm hr
  case ok u =>
    cases u
    case unknown => exact .unknown hu hm hr
    all_goals exact .resolved hu hm hr (by simp)

theorem resolveExpr_eq_ok_iff : m.resolveExpr n e = .ok h ↔
    h.name = n ∧ e.unknown? = none ∧ m.missing? e = none ∧ m.underlying e = .ok h.underlying ∧
      ∀ text, h.underlying ≠ .unknown text := by
  have ho := outcome_resolveExpr m n e
  constructor
  case mp =>
    intro h
    rw [h] at ho
    cases ho
    case resolved hu hm hr hk => exact ⟨rfl, hu, hm, hr, hk⟩
  case mpr =>
    obtain ⟨_, u⟩ := h
    rintro ⟨rfl, hu, hm, hr, hk⟩
    generalize m.resolveExpr _ e = r at ho
    cases ho <;> simp_all
    case unknown => exact absurd hr.symm (hk _)

theorem resolveExpr_error (h : m.resolveExpr n e = .error err) :
    (∃ text, err = .undeclared text ∧
      (Occurs (.unknown text) e ∨ m.underlying e = .ok (.unknown text))) ∨
    (∃ x, err = .undeclared x ∧ m.missing? e = some x) ∨
    (m.missing? e = none ∧ m.underlying e = .error err) := by
  have ho := outcome_resolveExpr m n e
  rw [h] at ho
  cases ho
  case unmodelled text hu => exact .inl ⟨text, rfl, .inl (occurs_of_unknown? hu)⟩
  case missing x _ hm     => exact .inr <| .inl ⟨x, rfl, hm⟩
  case failed _ hm hr     => exact .inr <| .inr ⟨hm, hr⟩
  case unknown text _ _ hr => exact .inl ⟨text, rfl, .inr hr⟩

-- A declared expression leads to a declared one.
theorem Chain.declared (h : m.Chain e as u) (hd : m.Declared e) (ht : m.TargetsDeclared as) :
    m.Declared u := by
  induction h
  case refl => exact hd
  case step n _ _ _ ha _ ih =>
    have ⟨hn, ht⟩ := List.forall_mem_cons.mp ht
    exact ih (hn _ ha) ht

-- Behind an alias cycle there is a chain that leads from an alias back to it.
theorem cycle_of_underlying (h : m.underlying e = .error (.aliasCycle x)) :
    ∃ as bs, m.IsAlias x ∧ m.Chain e as (.named x) ∧ m.Chain (.named x) (x :: bs) (.named x) ∧
      m.TargetsDeclared (as ++ x :: bs) := by
  have ⟨as, hc, ha, hx, ht⟩ := (follow_iff.mpr h).chain_of_aliasCycle
  obtain ⟨as₁, as₂, rfl, h₁, h₂⟩ := hc.split (by simpa using hx)
  exact ⟨as₁, as₂, ha, h₁, h₂, ht⟩

-- A name resolves exactly if it is read as an expression that is modelled and declared, and its aliases
-- lead to one that is neither an alias nor unmodelled. An error always has its cause: a chain of aliases
-- that comes back to one of them, or an unmodelled or undeclared part. Following aliases ends for every
-- model.
theorem resolve_exactness (m : TypeModel) (hp : (Grammar.type? n).map ({} : Scope).lower = some e) :
    (∀ h, m.resolve n = .ok h ↔
      h.name = n ∧ (∀ text, ¬Occurs (.unknown text) e) ∧ m.Declared e ∧
      ∃ as, m.Chain e as h.underlying ∧ as.Nodup ∧ m.TargetsDeclared as ∧
        (∀ a, h.underlying = .named a → ¬m.IsAlias a) ∧ ∀ text, h.underlying ≠ .unknown text) ∧
    (∀ h, m.resolve n = .ok h → m.underlying h.underlying = .ok h.underlying) ∧
    (∀ err, m.resolve n = .error err →
      (∃ x as bs, err = .aliasCycle x ∧ m.IsAlias x ∧ m.Chain e as (.named x) ∧
        m.Chain (.named x) (x :: bs) (.named x) ∧ m.Declared e ∧ m.TargetsDeclared (as ++ x :: bs)) ∨
      (∃ x as u, err = .undeclared x ∧ m.Chain e as u ∧
        (Occurs (.unknown x) e ∨ u = .unknown x ∨
          ¬m.declares x ∧ (Occurs (.named x) e ∨
            ∃ a ∈ as, ∃ t, m.alias? a = some t ∧ Occurs (.named x) t)))) ∧
    (∀ r, m.Follow [] e r ↔ m.underlying e = r) := by
  rw [resolve_eq hp]
  refine ⟨fun h => ?_, fun h hr => ?_, fun err hr => ?_, fun r => follow_iff⟩
  case refine_1 =>
    rw [resolveExpr_eq_ok_iff, unknown?_eq_none_iff, missing?_eq_none_iff, underlying_eq_ok_iff]
    constructor
    case mp =>
      rintro ⟨hn, hu, hd, ⟨as, hc, hs, ht, hf⟩, hk⟩
      exact ⟨hn, hu, hd, as, hc, hs, ht, fun a ha => (hf a ha).right, hk⟩
    case mpr =>
      rintro ⟨hn, hu, hd, as, hc, hs, ht, hf, hk⟩
      have hd' := hc.declared hd ht
      exact ⟨hn, hu, hd, ⟨as, hc, hs, ht, fun a ha => ⟨hd' a (ha ▸ .self), hf a ha⟩⟩, hk⟩
  case refine_2 =>
    have ⟨_, _, _, hr, _⟩ := resolveExpr_eq_ok_iff.mp hr
    have ⟨_, _, _, _, hf⟩ := underlying_eq_ok_iff.mp hr
    exact underlying_of_isUnderlying hf
  case refine_3 =>
    obtain ⟨text, rfl, ho⟩ | ⟨x, rfl, hm⟩ | ⟨hm, hr⟩ := resolveExpr_error hr
    · cases ho
      case inl ho => exact .inr ⟨text, [], e, rfl, .refl, .inl ho⟩
      case inr hr =>
        have ⟨as, hc, _⟩ := underlying_eq_ok_iff.mp hr
        exact .inr ⟨text, as, _, rfl, hc, .inr <| .inl rfl⟩
    · have ⟨ho, hd⟩ := occurs_of_missing? hm
      exact .inr ⟨x, [], e, rfl, .refl, .inr <| .inr ⟨hd, .inl ho⟩⟩
    · cases err
      case malformed text => exact absurd rfl (follow_iff.mpr hr).ne_malformed
      case undeclared x _ =>
        have ⟨hd, as, u, hc, ho⟩ := (follow_iff.mpr hr).chain_of_undeclared
        exact .inr ⟨x, as, u, rfl, hc, .inr <| .inr ⟨hd, ho⟩⟩
      case aliasCycle x _ =>
        have ⟨as, bs, ha, h₁, h₂, ht⟩ := cycle_of_underlying hr
        exact .inl ⟨x, as, bs, rfl, ha, h₁, h₂, missing?_eq_none_iff.mp hm, ht⟩

-- An alias of an alias, and two aliases that stand for each other.
def aliases : TypeModel where
  decls := [
    ⟨"Count", .alias (.primitive .int)⟩,
    ⟨"Total", .alias (.named "Count")⟩,
    ⟨"Loop", .alias (.named "Pool")⟩,
    ⟨"Pool", .alias (.named "Loop")⟩]
  nodup := by decide

theorem resolve_exactness_total :
    (Grammar.type? "Total").map ({} : Scope).lower = some (.named "Total") ∧
    aliases.resolve "Total" = .ok ⟨"Total", .primitive .int⟩ ∧
    ∃ as, aliases.Chain (.named "Total") as (.primitive .int) ∧ as.Nodup := by
  have hp : (Grammar.type? "Total").map ({} : Scope).lower = some (.named "Total") := by rfl
  have hr : aliases.resolve "Total" = .ok ⟨"Total", .primitive .int⟩ := by rfl
  have ⟨_, _, _, as, hc, hn, _⟩ := (resolve_exactness aliases hp).left _ |>.mp hr
  exact ⟨hp, hr, as, hc, hn⟩

end CollectionPlan.TypeModel
