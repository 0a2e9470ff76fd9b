import CollectionPlan.Proofs.Lowering.Reading
import CollectionPlan.Proofs.Resolution.AliasTarget

open Relation CollectionPlan.TypeTree

namespace CollectionPlan

namespace TypeTree

-- At a place stands the name of the text type, right behind the sign of a reference.
def Site.HoldsText (site : Site) (t : TypeTree) : Prop :=
  site.getLast? = some .referent ∧ t.isName "str" = true

-- The second type has a pair of parentheses more somewhere, though not around the name of a text that is
-- referred to.
inductive Parenthesized : TypeTree → TypeTree → Prop
  | intro (site : Site) (h : ¬site.HoldsText t) : Parenthesized (site.fill t) (site.fill (.paren t))

-- The name of the text type on its own.
def textType : TypeTree :=
  .path false [] "str" false []

end TypeTree

namespace Scope

variable {s : Scope} {site : Site} {t u : TypeTree}

theorem lower_parenthesized (h : Parenthesized t u) : s.lower t = s.lower u := by
  obtain @⟨t, site, h⟩ := h
  refine lower_fill (by rw [lower]) fun hl => ?_
  have hn : t.isName "str" = false := by simpa [Site.HoldsText, hl] using h
  rw [hn]
  rfl

theorem lower_eq_of_eqvGen (h : EqvGen Parenthesized t u) : s.lower t = s.lower u := by
  induction h
  case rel h         => exact lower_parenthesized h
  case refl          => rfl
  case symm ih       => exact ih.symm
  case trans ih₁ ih₂ => exact ih₁.trans ih₂

-- In parentheses the name of the text type is no longer seen, so that a reference to it is no text.
theorem lower_ne_of_holdsText (hc : s.ComesTo site) (h : site.HoldsText t) :
    s.lower (site.fill (.paren t)) ≠ s.lower (site.fill t) := by
  obtain ⟨hl, hn⟩ := h
  obtain ⟨outer, rfl⟩ := List.getLast?_eq_some_iff.mp hl
  have hc : s.ComesTo outer := fun f hf => hc f (by simp [hf])
  have ht : s.lower (.reference t) = .primitive .str := by rw [lower, if_pos hn]
  have hp : s.lower (.reference (.paren t)) = .pointer (s.lower (.paren t)) := rfl
  intro he
  rw [Site.fill_append, Site.fill_append] at he
  have hp' := at?_fill hc (t := .reference (.paren t)) rfl
  have ht' := at?_fill hc (t := .reference t) rfl
  rw [hp] at hp'
  rw [ht] at ht'
  cases (he ▸ hp').symm.trans ht'

theorem lower_paren_iff (hc : s.ComesTo site) :
    s.lower (site.fill (.paren t)) = s.lower (site.fill t) ↔ ¬site.HoldsText t where
  mp he h := lower_ne_of_holdsText hc h he
  mpr h   := (lower_parenthesized ⟨site, h⟩).symm

end Scope

namespace TypeModel

variable {m : TypeModel} {text text' : String} {t t' : TypeTree}

-- Texts that are read as types of one meaning resolve alike.
theorem alike_of_lower (ht : Grammar.type? text = some t) (ht' : Grammar.type? text' = some t')
    (hl : ({} : Scope).lower t = ({} : Scope).lower t') : m.Alike (m.resolve text) (m.resolve text') := by
  rw [resolve_eq (congrArg (Option.map _) ht), resolve_eq (congrArg (Option.map _) ht'), alike_iff]
  simp [leadsTo_resolveExpr, hl]

end TypeModel

namespace Scope

-- Parentheses that are put in or left out, as many as one likes, do not change what a type is lowered to nor
-- how it resolves, with one exception: around the name of the text type right behind the sign of a reference
-- they make a difference wherever lowering comes to.
theorem parentheses_redundant (s : Scope) (m : TypeModel) :
    (∀ t u, EqvGen Parenthesized t u → s.lower t = s.lower u) ∧
    (∀ (site : Site) t, s.ComesTo site →
      (s.lower (site.fill (.paren t)) = s.lower (site.fill t) ↔ ¬site.HoldsText t)) ∧
    ∀ text text' t t', Grammar.type? text = some t → Grammar.type? text' = some t' →
      EqvGen Parenthesized t t' → m.Alike (m.resolve text) (m.resolve text') where
  left        := fun _ _ => lower_eq_of_eqvGen
  right.left  := fun _ _ => lower_paren_iff
  right.right := fun _ _ _ _ ht ht' h => TypeModel.alike_of_lower ht ht' (lower_eq_of_eqvGen h)

-- A second pair around the name of the text type makes no difference, nor does one around a reference to it.
theorem parentheses_redundant_text :
    TypeModel.empty.Alike (TypeModel.empty.resolve "&(str)") (TypeModel.empty.resolve "(&((str)))") ∧
    ({} : Scope).lower (.slice (.paren (.reference textType))) = ({} : Scope).lower (.slice (.reference textType)) ∧
    ({} : Scope).lower (.slice (.reference (.paren textType))) ≠
      ({} : Scope).lower (.slice (.reference textType)) := by
  obtain ⟨_, hp, hr⟩ := parentheses_redundant {} .empty
  refine ⟨hr _ _ (.reference (.paren textType)) (.paren (.reference (.paren (.paren textType))))
    (by decide +kernel) (by decide +kernel) (.trans _ (.reference (.paren (.paren textType))) _ ?_ ?_), ?_, ?_⟩
  · exact .rel _ _ (.intro (t := .paren textType) [.referent] (by simp [Site.HoldsText, isName]))
  · exact .rel _ _ (.intro [] (by simp [Site.HoldsText]))
  · exact (hp [.sliceElement] _ (by simp [ComesTo, Enters])).mpr (by simp [Site.HoldsText])
  · exact (hp [.sliceElement, .referent] textType (by simp [ComesTo, Enters])).not.mpr
      (by simp [Site.HoldsText, isName, textType])

-- In parentheses a text that is referred to has no order any more.
theorem parentheses_around_text : ∃ t,
    Grammar.type? "&str" = some (Site.fill [.referent] t) ∧
    Grammar.type? "&(str)" = some (Site.fill [.referent] (.paren t)) ∧
    ({} : Scope).lower (Site.fill [.referent] t) = .primitive .str ∧
    ({} : Scope).lower (Site.fill [.referent] (.paren t)) = .pointer (.primitive .str) ∧
    TypeModel.empty.ordered (.primitive .str) = true ∧
    TypeModel.empty.ordered (.pointer (.primitive .str)) = false :=
  ⟨textType, by decide +kernel, by decide +kernel, rfl, rfl, rfl, rfl⟩

end Scope
end CollectionPlan
