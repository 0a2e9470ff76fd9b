import CollectionPlan.Proofs.Comparability.Transparency
import CollectionPlan.Proofs.Declarations
import CollectionPlan.Proofs.Resolution.OwnName

open CollectionPlan.TypeExpr

namespace CollectionPlan

namespace TypeExpr

-- Something in an expression is not modelled, but not the expression as a whole.
def HidesUnknown (e : TypeExpr) : Prop :=
  (∃ text, Occurs (.unknown text) e) ∧ ∀ text, e ≠ .unknown text

variable {e : TypeExpr}

theorem exists_unknown_iff : (∃ text, Occurs (.unknown text) e) ↔ e.unknown? ≠ none := by
  simp [unknown?_eq_none_iff]

theorem HidesUnknown.ne_named (h : e.HidesUnknown) : e ≠ .named n := by
  rintro rfl
  exact exists_unknown_iff.mp h.left rfl

end TypeExpr

-- An item is the first one of its name in a source text.
def TypeItem.FirstIn (i : TypeItem) (source : String) : Prop :=
  ∃ items, Grammar.items source = .ok items ∧ (items.filterMap id).find? (·.name = i.name) = some i

namespace TypeModel

variable {m : TypeModel} {e u : TypeExpr} {n : String}

-- Both resolutions lead to one representation with the same capabilities, or both fail.
inductive Alike (m : TypeModel) : Except ResolveError TypeHandle → Except ResolveError TypeHandle → Prop
  | resolved (hu : h.underlying = h'.underlying) (ht : m.traits h = m.traits h') : Alike m (.ok h) (.ok h')
  | failed   : Alike m (.error err) (.error err')

-- What a resolution leads to, whatever name was asked for.
def LeadsTo (r : Except ResolveError TypeHandle) (u : TypeExpr) : Prop :=
  ∃ h, r = .ok h ∧ h.underlying = u

-- Capabilities are those of the representation.
theorem alike_iff {r r' : Except ResolveError TypeHandle} :
    m.Alike r r' ↔ ∀ u, LeadsTo r u ↔ LeadsTo r' u := by
  constructor
  case mp =>
    intro h u
    cases h
    case resolved hu _ => simp [LeadsTo, hu]
    case failed        => simp [LeadsTo]
  case mpr =>
    intro h
    cases r <;> cases r'
    case error.error => exact .failed
    case error.ok h₂ =>
      have ⟨_, he, _⟩ := (h h₂.underlying).mpr ⟨h₂, rfl, rfl⟩
      cases he
    case ok.error h₁ _ =>
      have ⟨_, he, _⟩ := (h h₁.underlying).mp ⟨h₁, rfl, rfl⟩
      cases he
    case ok.ok h₁ h₂ =>
      obtain ⟨_, he, hu⟩ := (h h₁.underlying).mp ⟨h₁, rfl, rfl⟩
      cases he
      exact .resolved hu.symm (by simp [traits, hu])

-- A representation that an expression comes to down its aliases, with all names on the way declared.
def Represents (m : TypeModel) (u e : TypeExpr) : Prop :=
  m.Declared e ∧ m.underlying e = .ok u ∧ ∀ text, u ≠ .unknown text

theorem leadsTo_resolveExpr : LeadsTo (m.resolveExpr n e) u ↔ e.unknown? = none ∧ m.Represents u e := by
  simp only [LeadsTo, Represents, resolveExpr_eq_ok_iff, missing?_eq_none_iff]
  constructor
  case mp =>
    rintro ⟨h, ⟨_, hu, hd, hr, hk⟩, rfl⟩
    exact ⟨hu, hd, hr, hk⟩
  case mpr =>
    rintro ⟨hu, hd, hr, hk⟩
    exact ⟨⟨n, u⟩, ⟨rfl, hu, hd, hr, hk⟩, rfl⟩

-- No chain that ends comes back to an alias, so that the aliases behind it are replaced as if it were
-- not there.
theorem underlying_alias_iff (ha : m.alias? n = some e) :
    m.underlying (.named n) = .ok u ↔ m.Declared e ∧ m.underlying e = .ok u := by
  rw [underlying_eq_ok_iff, underlying_eq_ok_iff]
  constructor
  case mp =>
    rintro ⟨as, hc, hn, ht, hu⟩
    cases hc
    case refl => exact absurd (isAlias_of_alias? ha) (hu n rfl).right
    case step t as ha' hc =>
      cases ha.symm.trans ha'
      have ⟨hd, ht⟩ := List.forall_mem_cons.mp ht
      exact ⟨hd _ ha, as, hc, (List.nodup_cons.mp hn).right, ht, hu⟩
  case mpr =>
    rintro ⟨hd, as, hc, hn, ht, hu⟩
    have hn' : n ∉ as := by
      intro hm
      obtain ⟨as₁, as₂, rfl, _, h₂⟩ := hc.split hm
      have ⟨he, _⟩ := h₂.deterministic (.step ha hc) hu hu
      have hl := congrArg List.length he
      simp only [List.length_cons, List.length_append] at hl
      omega
    exact ⟨n :: as, .step ha hc, List.nodup_cons.mpr ⟨hn', hn⟩, ht.cons ha hd, hu⟩

theorem represents_alias_iff (ha : m.alias? n = some e) : m.Represents u (.named n) ↔ m.Represents u e := by
  have ⟨_, hf, _⟩ := alias?_eq_some ha
  have hd : m.Declared (.named n) := fun _ h => by
    cases h
    exact declares_of_find? hf
  simp only [Represents, underlying_alias_iff ha, hd, true_and, and_assoc]

theorem represents_of_hidesUnknown (h : e.HidesUnknown) (hd : m.Declared e) : m.Represents e e :=
  ⟨hd, underlying_of_isUnderlying fun _ he => absurd he h.ne_named, h.right⟩

-- What is not modelled is seen in an expression as such, but not behind an alias, unless it is all of it.
theorem alike_alias_iff (ha : m.alias? n = some e) :
    m.Alike (m.resolveExpr n (.named n)) (m.resolveExpr text e) ↔ ¬(m.Declared e ∧ e.HidesUnknown) := by
  have hn : (TypeExpr.named n).unknown? = none := rfl
  simp only [alike_iff, leadsTo_resolveExpr, represents_alias_iff ha, hn, true_and]
  constructor
  case mp =>
    rintro h ⟨hd, hh⟩
    have ⟨hu, _⟩ := (h e).mp (represents_of_hidesUnknown hh hd)
    exact exists_unknown_iff.mp hh.left hu
  case mpr =>
    intro h u
    refine ⟨fun hr => ⟨?_, hr⟩, And.right⟩
    by_contra hu
    refine h ⟨hr.left, exists_unknown_iff.mpr hu, fun text he => ?_⟩
    subst he
    have ho : m.underlying (.unknown text) = .ok (.unknown text) :=
      underlying_of_isUnderlying (by simp [IsUnderlying])
    cases ho.symm.trans hr.right.left
    exact hr.right.right text rfl

variable {source text : String} {i : TypeItem} {target : TypeTree}

-- A source text has its items declared in their order.
theorem find?_ofSource (hm : ofSource source = .ok m) (hi : i.FirstIn source) :
    m.find? i.name = some i.lower := by
  have ⟨items, hg, hf⟩ := hi
  have he : m = empty.declareItems items := by
    rw [ofSource, hg] at hm
    cases hm
    rfl
  rw [he, find?_declareItems, hf, Option.map_some]

theorem alias?_ofSource (hm : ofSource source = .ok m) (hi : i.FirstIn source)
    (ha : i.body = .alias target) (hp : i.typeParams = []) :
    m.alias? i.name = some (({} : Scope).lower target) := by
  rw [alias?, find?_ofSource hm hi]
  simp [TypeItem.lower, TypeItem.aliasScope, ha, hp]

-- An alias and its target, written out, resolve alike unless something in the target is hidden that is not
-- modelled. Then the alias resolves to it, and only the target that is written out is refused.
theorem resolve_alias_alike (hm : ofSource source = .ok m) (hi : i.FirstIn source)
    (ha : i.body = .alias target) (hp : i.typeParams = []) (hb : Builtin.isName i.name = false)
    (ht : (Grammar.type? text).map ({} : Scope).lower = some e) (he : e = ({} : Scope).lower target) :
    (m.Alike (m.resolve i.name) (m.resolve text) ↔ ¬(m.Declared e ∧ e.HidesUnknown)) ∧
    (m.Declared e → e.HidesUnknown → m.resolve i.name = .ok ⟨i.name, e⟩ ∧
      ∃ x, Occurs (.unknown x) e ∧ m.resolve text = .error (.undeclared x)) := by
  have hn : (Grammar.type? i.name).map ({} : Scope).lower = some (.named i.name) := by
    have hb : Builtin.type? i.ident.text [] = none := by simpa [Builtin.isName, TypeItem.name] using hb
    rw [TypeItem.name, Identifier.lower_type?, hb, Option.getD_none]
  have ha := he ▸ alias?_ofSource hm hi ha hp
  rw [resolve_eq hn, resolve_eq ht]
  refine ⟨alike_alias_iff ha, fun hd hh => ⟨?_, ?_⟩⟩
  case refine_1 =>
    obtain ⟨hd, hr, hk⟩ := represents_alias_iff ha |>.mpr (represents_of_hidesUnknown hh hd)
    exact resolveExpr_eq_ok_iff.mpr ⟨rfl, rfl, missing?_eq_none_iff.mpr hd, hr, hk⟩
  case refine_2 =>
    obtain ⟨x, hx⟩ := Option.ne_none_iff_exists'.mp (exists_unknown_iff.mp hh.left)
    refine ⟨x, occurs_of_unknown? hx, ?_⟩
    simp only [resolveExpr, hx]
    rfl

-- An alias of a wrapper around a type that is not declared, and one of a wrapper around that alias.
def spotSource : String :=
  "type Spot = Option<other::Point>; type Place = Box<Spot>;"

-- The target of the first declaration of a name, if this is an alias without parameters.
def aliasOf? (source name : String) : Option TypeExpr := do
  let items ← (Grammar.items source).toOption
  match (items.filterMap id).find? (·.name = name) with
  | some ⟨_, [], _, .alias target⟩ => some (({} : Scope).lower target)
  | _                              => none

theorem exists_of_aliasOf? (h : aliasOf? source n = some e) :
    ∃ (m : TypeModel) (i : TypeItem) (target : TypeTree), ofSource source = .ok m ∧ i.FirstIn source ∧
      i.name = n ∧ i.body = .alias target ∧ i.typeParams = [] ∧ e = ({} : Scope).lower target := by
  obtain ⟨items, hi, h⟩ := Option.bind_eq_some_iff.mp h
  cases hg : Grammar.items source
  case error =>
    rw [hg] at hi
    cases hi
  case ok    =>
    rw [hg] at hi
    cases hi
    split at h
    case h_2 => cases h
    case h_1 target hf =>
      cases h
      have hn := List.find?_some hf
      simp only [decide_eq_true_eq] at hn
      exact ⟨_, _, target, by rw [ofSource, hg]; rfl, ⟨_, hg, hn ▸ hf⟩, hn, rfl, rfl, rfl⟩

theorem aliasOf?_spot : aliasOf? spotSource "Spot" = some (.wrapper (.unknown "other::Point")) := by
  decide +kernel

theorem lower_spotTarget : (Grammar.type? "Option<other::Point>").map ({} : Scope).lower =
    some (.wrapper (.unknown "other::Point")) := by
  decide +kernel

theorem resolve_alias_alike_spots : ∃ m, ofSource spotSource = .ok m ∧
    m.Alike (m.resolve "Place") (m.resolve "Box<Spot>") ∧
    ¬m.Alike (m.resolve "Spot") (m.resolve "Option<other::Point>") := by
  have ha : aliasOf? spotSource "Place" = some (.wrapper (.named "Spot")) := by decide +kernel
  have ht : (Grammar.type? "Box<Spot>").map ({} : Scope).lower = some (.wrapper (.named "Spot")) := by
    decide +kernel
  obtain ⟨m, i, _, hm, hi, hn, hb, hp, he⟩ := exists_of_aliasOf? ha
  obtain ⟨m', i', _, hm', hi', hn', hb', hp', he'⟩ := exists_of_aliasOf? aliasOf?_spot
  cases hm.symm.trans hm'
  have ⟨hk, _⟩ := resolve_alias_alike hm hi hb hp (hn ▸ by decide) ht he
  have ⟨hk', _⟩ := resolve_alias_alike hm hi' hb' hp' (hn' ▸ by decide) lower_spotTarget he'
  have hh : ¬(TypeExpr.wrapper (.named "Spot")).HidesUnknown := fun h => exists_unknown_iff.mp h.left rfl
  have hh' : (TypeExpr.wrapper (.unknown "other::Point")).HidesUnknown :=
    ⟨exists_unknown_iff.mpr (by decide), by simp⟩
  refine ⟨m, hm, hn ▸ hk.mpr fun h => hh h.right, fun h => ?_⟩
  exact (hn' ▸ hk').mp h ⟨missing?_eq_none_iff.mp rfl, hh'⟩

-- The same type is there behind its alias, and undeclared where it is written out.
theorem resolve_alias_not_alike : ∃ m, ofSource spotSource = .ok m ∧
    aliasOf? spotSource "Spot" = (Grammar.type? "Option<other::Point>").map ({} : Scope).lower ∧
    m.resolve "Spot" = .ok ⟨"Spot", .wrapper (.unknown "other::Point")⟩ ∧
    m.resolve "Option<other::Point>" = .error (.undeclared "other::Point") := by
  have hr : (ofSource spotSource).toOption.map (fun m => (m.resolve "Spot", m.resolve "Option<other::Point>")) =
      some (.ok ⟨"Spot", .wrapper (.unknown "other::Point")⟩, .error (.undeclared "other::Point")) := by
    decide +kernel
  cases hm : ofSource spotSource
  case error =>
    rw [hm] at hr
    cases hr
  case ok m  =>
    simp only [hm, Except.toOption, Option.map_some, Option.some.injEq, Prod.mk.injEq] at hr
    exact ⟨m, rfl, aliasOf?_spot.trans lower_spotTarget.symm, hr⟩

end TypeModel
end CollectionPlan
