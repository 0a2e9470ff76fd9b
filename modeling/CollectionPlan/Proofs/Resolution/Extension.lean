import CollectionPlan.Proofs.Comparability.Refutation
import CollectionPlan.Proofs.Declarations
import CollectionPlan.Proofs.Resolution.Exactness

namespace CollectionPlan.TypeModel

variable {m m' m'' : TypeModel} {e : TypeExpr} {n : String}

theorem Outcome.deterministic (h₁ : m.Outcome n e r₁) (h₂ : m.Outcome n e r₂) : r₁ = r₂ := by
  cases h₁ <;> cases h₂ <;> simp_all
  case resolved.unknown hu hn _ _ _ => exact absurd hu.symm (hn _)

theorem isUnderlying_of_resolve (hr : m.resolve n = .ok handle) : m.IsUnderlying handle.underlying := by
  unfold resolve at hr
  cases hp : Grammar.type? n
  case none      => simp [hp] at hr
  case some tree =>
    simp only [hp] at hr
    have ⟨_, _, _, hu, _⟩ := resolveExpr_eq_ok_iff.mp hr
    have ⟨_, _, _, _, hu⟩ := underlying_eq_ok_iff.mp hu
    exact hu

-- All that is declared in the first model is declared in the second one, and in the same way.
def ExtendedBy (m m' : TypeModel) : Prop :=
  ∀ n d, m.find? n = some d → m'.find? n = some d

namespace ExtendedBy

theorem refl : m.ExtendedBy m :=
  fun _ _ hd => hd

theorem trans (h : m.ExtendedBy m') (h' : m'.ExtendedBy m'') : m.ExtendedBy m'' :=
  fun n d hd => h' n d (h n d hd)

theorem declare : m.ExtendedBy (m.declare d) := by
  intro n _ hd
  rw [find?_declare, hd, Option.some_or]

-- Each step of a run of declarations extends the model.
theorem declareAll : m.ExtendedBy (m.declareAll ds) := by
  induction ds generalizing m
  case nil          => exact refl
  case cons d ds ih => exact declare.trans ih

variable (h : m.ExtendedBy m')
include h

theorem declares (hn : m.declares n) : m'.declares n := by
  have ⟨d, hd⟩ := Option.isSome_iff_exists.mp hn
  exact declares_of_find? (h n d hd)

theorem find?_eq_none (hd : m'.find? n = none) : m.find? n = none := by
  rw [Option.eq_none_iff_forall_ne_some] at hd ⊢
  exact fun d hn => hd d (h n d hn)

theorem alias?_eq (hd : m.find? n = some d) : m'.alias? n = m.alias? n := by
  simp [alias?, hd, h n d hd]

theorem isAlias_iff (hd : m.find? n = some d) : m'.IsAlias n ↔ m.IsAlias n := by
  rw [IsAlias, IsAlias, h.alias?_eq hd]

theorem alias?_eq_some (ha : m.alias? n = some t) : m'.alias? n = some t := by
  have ⟨_, hd, _⟩ := TypeModel.alias?_eq_some ha
  rw [h.alias?_eq hd, ha]

theorem missing?_eq_none (hm : m.missing? e = none) : m'.missing? e = none := by
  rw [missing?_eq_none_iff] at hm ⊢
  exact fun n hn => h.declares (hm n hn)

-- Only an undeclared name can end a chain of aliases that goes on with more declarations.
theorem follow {seen : List String} (hf : m.Follow seen e r) (hr : ∀ x, r ≠ .error (.undeclared x)) :
    m'.Follow seen e r := by
  induction hf
  case unnamed hn           => exact .unnamed hn
  case undeclared           => exact absurd rfl (hr _)
  case declared n _ _ hd ha => exact .declared (h n _ hd) ((h.isAlias_iff hd).not.mpr ha)
  case cycle ha hs          => exact .cycle (h.alias?_eq_some ha) hs
  case dangling             => exact absurd rfl (hr _)
  case next ha hs hm _ ih   => exact .next (h.alias?_eq_some ha) hs (h.missing?_eq_none hm) (ih hr)

theorem underlying_eq (hu : m.underlying e = r) (hr : ∀ x, r ≠ .error (.undeclared x)) :
    m'.underlying e = r :=
  follow_iff.mp <| h.follow (follow_iff.mpr hu) hr

theorem outcome (ho : m.Outcome n e r) (hr : ∀ x, r ≠ .error (.undeclared x)) : m'.Outcome n e r := by
  cases ho
  case unmodelled | missing | unknown => exact absurd rfl (hr _)
  case failed hu hm hf =>
    exact .failed hu (h.missing?_eq_none hm) (h.underlying_eq hf fun x hx => hr x (by simp_all))
  case resolved hu hm hf hn =>
    exact .resolved hu (h.missing?_eq_none hm) (h.underlying_eq hf (by simp)) hn

-- A name for which nothing was undeclared is answered as before.
theorem resolve_eq (hr : m.resolve n = r) (hu : ∀ x, r ≠ .error (.undeclared x)) : m'.resolve n = r := by
  subst hr
  unfold resolve at hu ⊢
  cases hp : Grammar.type? n
  case none      => rfl
  case some tree =>
    simp only [hp] at hu
    have ho := h.outcome (outcome_resolveExpr m n _) hu
    exact (outcome_resolveExpr m' n _).deterministic ho

section Underlying

variable {handle : TypeHandle} (hu : m.IsUnderlying handle.underlying)
include hu

theorem traits_eq : (m'.traits handle).numeric = (m.traits handle).numeric ∧
    (m'.traits handle).ordered = (m.traits handle).ordered := by
  have hm := underlying_of_isUnderlying hu
  have hm' := h.underlying_eq hm (by simp)
  simp [traits, numeric, ordered, hm, hm']

theorem fieldTags_eq : m'.fieldTags handle = m.fieldTags handle := by
  unfold fieldTags
  split
  case h_1 name he =>
    have ⟨d, hd⟩ := Option.isSome_iff_exists.mp (hu name he).left
    rw [hd, h name d hd]
  case h_2 => rfl

end Underlying

-- A step from an expression that is no undeclared name was there before.
theorem child (hc : m'.Child e e') (hn : ∀ n, e = .named n → m.declares n) : m.Child e e' := by
  cases hc
  case wrapper    => exact .wrapper
  case array      => exact .array
  case elem he    => exact .elem he
  case member hd' he =>
    have ⟨d, hd⟩ := Option.isSome_iff_exists.mp (hn _ rfl)
    cases (h _ _ hd).symm.trans hd'
    exact .member hd he

-- A reason against an expression that is found with more declarations is found with fewer of them,
-- unless a name on the way to it is undeclared, which is a reason too.
theorem refuted {visiting : List String} (hr : m'.Refuted visiting e) : m.Refuted visiting e := by
  induction hr
  case part hi =>
    cases hi
    case dynamic       => exact .part .dynamic
    case function      => exact .part .function
    case unknown       => exact .part .unknown
    case undeclared hd => exact .part <| .undeclared (h.find?_eq_none hd)
  case back n _ ha hv =>
    cases hd : m.find? n
    case none => exact .part <| .undeclared hd
    case some => exact .back ((h.isAlias_iff hd).mp ha) hv
  case inside hn hc _ ih => exact .inside hn (h.child hc fun n he => absurd he (hn n)) ih
  case member n _ hv hc _ ih =>
    cases hd : m.find? n
    case none => exact .part <| .undeclared hd
    case some =>
      refine .member hv (h.child hc fun n' he => ?_) ih
      cases he
      exact declares_of_find? hd

theorem comparable (hc : m.comparable e = true) : m'.comparable e = true := by
  rw [comparable_iff] at hc ⊢
  exact fun hr => hc (h.refuted hr)

end ExtendedBy
end CollectionPlan.TypeModel
