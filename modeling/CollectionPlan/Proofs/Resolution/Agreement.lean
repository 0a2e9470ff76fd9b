import CollectionPlan.Proofs.Resolution.Extension

namespace CollectionPlan.TypeModel

variable {m m' : TypeModel} {e : TypeExpr} {n : String}

-- Both models have the same declaration of each name, in whichever order they were declared.
def Agrees (m m' : TypeModel) : Prop :=
  ∀ n, m.find? n = m'.find? n

namespace Agrees

theorem symm (h : m.Agrees m') : m'.Agrees m :=
  fun n => (h n).symm

theorem extendedBy (h : m.Agrees m') : m.ExtendedBy m' :=
  fun n _ hd => h n ▸ hd

variable (h : m.Agrees m')
include h

theorem alias?_eq : m.alias? n = m'.alias? n := by
  rw [alias?, alias?, h n]

theorem isAlias_iff : m.IsAlias n ↔ m'.IsAlias n := by
  rw [IsAlias, IsAlias, h.alias?_eq]

theorem missing?_eq : m.missing? e = m'.missing? e := by
  simp only [missing?, declares, h _]

theorem size_eq : m.size = m'.size := by
  have hm (n : String) : n ∈ m.names ↔ n ∈ m'.names := by
    rw [←not_iff_not, ←find?_eq_none_iff, ←find?_eq_none_iff, h n]
  have hp : m.names.Perm m'.names := (List.perm_ext_iff_of_nodup m.nodup m'.nodup).mpr hm
  simpa [names, size] using hp.length_eq

theorem follow {seen : List String} (hf : m.Follow seen e r) : m'.Follow seen e r := by
  induction hf
  case unnamed hn         => exact .unnamed hn
  case undeclared hd      => exact .undeclared (h _ ▸ hd)
  case declared hd ha     => exact .declared (h _ ▸ hd) (h.isAlias_iff.not.mp ha)
  case cycle ha hs        => exact .cycle (h.alias?_eq ▸ ha) hs
  case dangling ha hs hm  => exact .dangling (h.alias?_eq ▸ ha) hs (h.missing?_eq ▸ hm)
  case next ha hs hm _ ih => exact .next (h.alias?_eq ▸ ha) hs (h.missing?_eq ▸ hm) ih

theorem underlying_eq : m.underlying e = m'.underlying e :=
  (follow_iff.mp <| h.follow (follow_underlying m e)).symm

theorem resolve_eq : m.resolve n = m'.resolve n := by
  simp only [resolve, resolveExpr, checkDeclared, h.missing?_eq, h.underlying_eq]

theorem comparable_eq : m.comparable e = m'.comparable e :=
  Bool.eq_iff_iff.mpr ⟨h.extendedBy.comparable, h.symm.extendedBy.comparable⟩

theorem traits_eq {handle : TypeHandle} : m.traits handle = m'.traits handle := by
  simp only [traits, numeric, ordered, h.underlying_eq, h.comparable_eq]

theorem fieldTags_eq {handle : TypeHandle} : m.fieldTags handle = m'.fieldTags handle := by
  simp only [fieldTags, h _]

-- So nothing that is asked about types tells the models apart.
theorem toUniverse_eq : m.toUniverse = m'.toUniverse := by
  simp only [toUniverse, Universe.mk.injEq, heq_eq_eq, true_and]
  exact ⟨funext fun _ => h.resolve_eq, funext fun _ => h.traits_eq, funext fun _ => h.fieldTags_eq⟩

end Agrees
end CollectionPlan.TypeModel
