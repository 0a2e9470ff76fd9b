import CollectionPlan.Proofs.Comparability.Search
import CollectionPlan.Proofs.Grammar.Identifier
import CollectionPlan.Proofs.Resolution.Exactness

namespace CollectionPlan

namespace Builtin

-- Whether a name stands for a builtin type, which hides every declaration of the name.
def isName (name : String) : Bool :=
  (type? name []).isSome

-- A builtin type without arguments is not a reference to a declaration.
theorem type?_ne_named (h : type? name [] = some e) : e ≠ .named n := by
  unfold type? at h
  repeat' split at h
  all_goals cases h
  all_goals simp

end Builtin

variable {m : TypeModel} {d : Declaration} {i : Identifier}

namespace Identifier

theorem ne_Self : i.text ≠ "Self" := by
  intro h
  have hf := i.free
  rw [Word.isIdentifier, h] at hf
  exact absurd hf (by decide)

-- Read as a type, an identifier stands for a builtin type or for its declaration.
theorem lower_type? : (Grammar.type? i.text).map ({} : Scope).lower =
    some ((Builtin.type? i.text []).getD (.named i.text)) := by
  have hl : ({} : Scope).localType i.text [] = (Builtin.type? i.text []).getD (.named i.text) := by
    simp [Scope.localType, ne_Self]
  rw [Grammar.type?_ident, Option.map_some, Scope.lower, ←hl]
  rfl

end Identifier

namespace TypeModel

theorem underlying_declared (hd : m.find? n = some d) (ha : d.isAlias = false) :
    m.underlying (.named n) = .ok (.named n) := by
  refine underlying_of_isUnderlying fun n hn => ?_
  cases hn
  exact ⟨declares_of_find? hd, by simp [isAlias_iff hd, ha]⟩

-- An identifier resolves to its declaration if this is no alias and not hidden.
theorem resolve_declared (hb : Builtin.isName i.text = false) (hd : m.find? i.text = some d)
    (ha : d.isAlias = false) : m.resolve i.text = .ok ⟨i.text, .named i.text⟩ := by
  have hn : Builtin.type? i.text [] = none := by simpa [Builtin.isName] using hb
  rw [resolve_eq Identifier.lower_type?, hn, Option.getD_none, resolveExpr_eq_ok_iff]
  refine ⟨rfl, rfl, ?_, underlying_declared hd ha, by simp⟩
  simp [missing?, TypeExpr.names, declares_of_find? hd]

-- No fields are found under the name of a builtin type, whatever is declared.
theorem fieldTags_builtin (hb : Builtin.isName i.text) (hr : m.resolve i.text = .ok handle) :
    m.fieldTags handle = [] := by
  have ⟨e, he⟩ := Option.isSome_iff_exists.mp hb
  rw [resolve_eq Identifier.lower_type?, he, Option.getD_some, resolveExpr_eq_ok_iff] at hr
  have ⟨_, _, _, hr, _⟩ := hr
  have hu : m.underlying e = .ok e :=
    underlying_of_isUnderlying fun n hn => absurd hn (Builtin.type?_ne_named he)
  cases hu.symm.trans hr
  unfold fieldTags
  split
  case h_1 h => exact absurd h (Builtin.type?_ne_named he)
  case h_2   => rfl

theorem fieldTags_named (hd : m.find? n = some d) :
    m.fieldTags ⟨name, .named n⟩ = d.fields.map fun f => ⟨f.name, f.rawTag⟩ := by
  simp [fieldTags, hd]

-- A declared type is comparable if its own members are, with the type itself being visited.
theorem comparable_declared (hd : m.find? n = some d) : m.comparable (.named n) =
    (TypeExpr.tuple d.members).comparableWith (m.comparableName (m.size - 1) [n]) := by
  have hs : m.size = m.size - 1 + 1 := by
    have hp := List.length_pos_of_mem (mem_names_of_find? hd)
    simp only [names, List.length_map] at hp
    exact (Nat.sub_add_cancel hp).symm
  rw [comparable, TypeExpr.comparableWith, hs]
  exact comparableName_enter hd List.not_mem_nil

-- There are no other capabilities than that of being compared.
theorem traits_declared (hd : m.find? n = some d) (ha : d.isAlias = false) :
    m.traits ⟨name, .named n⟩ = ⟨false, m.comparable (.named n), false⟩ := by
  simp [traits, numeric, ordered, underlying_declared hd ha, TypeExpr.isNumeric, TypeExpr.isOrdered]

end TypeModel
end CollectionPlan
