import CollectionPlan.Proofs.Comparability.Transparency

namespace CollectionPlan

namespace TypeExpr

theorem isNumeric_iff {u : TypeExpr} :
    u.isNumeric = true ↔ ∃ p, u = .primitive p ∧ (p = .int ∨ p = .float) := by
  cases u
  case primitive p => cases p <;> simp [isNumeric]
  all_goals simp [isNumeric]

theorem isOrdered_iff {u : TypeExpr} : u.isOrdered = true ↔ ∃ p, u = .primitive p ∧ p ≠ .bool := by
  cases u
  case primitive p => cases p <;> simp [isOrdered]
  all_goals simp [isOrdered]

end TypeExpr

namespace TypeModel

variable {m : TypeModel} {e : TypeExpr}

-- A number is what the aliases lead to, if they lead anywhere.
theorem numeric_iff : m.numeric e = true ↔
    ∃ p, m.underlying e = .ok (.primitive p) ∧ (p = .int ∨ p = .float) := by
  unfold numeric
  cases m.underlying e <;> simp [TypeExpr.isNumeric_iff]

theorem ordered_iff : m.ordered e = true ↔
    ∃ p, m.underlying e = .ok (.primitive p) ∧ p ≠ .bool := by
  unfold ordered
  cases m.underlying e <;> simp [TypeExpr.isOrdered_iff]

-- The search for an incomparable part goes down the same aliases. It is at none of them twice, and
-- there is nothing to look at where they end.
theorem comparable_of_primitive (hu : m.underlying e = .ok (.primitive p)) : m.comparable e = true := by
  have ⟨as, ha, hn, _⟩ := underlying_eq_ok_iff.mp hu
  rw [comparable_iff, ha.refuted_iff hn (by simp)]
  exact not_refuted_primitive

-- Numbers have an order and what has an order can be compared, whatever a handle holds: it need not
-- be resolved, nor resolve.
theorem capabilities_nested (m : TypeModel) (h : TypeHandle) :
    ((m.traits h).numeric = true → (m.traits h).ordered = true) ∧
    ((m.traits h).ordered = true → (m.traits h).comparable = true) := by
  refine ⟨fun hn => ?_, fun ho => ?_⟩
  case refine_1 =>
    have ⟨p, hu, hp⟩ := numeric_iff.mp hn
    exact ordered_iff.mpr ⟨p, hu, by rintro rfl; simp at hp⟩
  case refine_2 =>
    have ⟨_, hu, _⟩ := ordered_iff.mp ho
    exact comparable_of_primitive hu

-- A price through two aliases, beside a third one that stands for itself.
def prices : TypeModel where
  decls := [
    ⟨"Price", .alias (.named "Amount")⟩,
    ⟨"Amount", .alias (.primitive .float)⟩,
    ⟨"Loop", .alias (.named "Loop")⟩]
  nodup := by decide

-- Neither the name of an alias nor the number behind it was resolved.
theorem capabilities_nested_prices :
    ((prices.traits ⟨"Price", .named "Price"⟩).numeric = true ∧
      (prices.traits ⟨"Price", .named "Price"⟩).ordered = true ∧
      (prices.traits ⟨"Price", .named "Price"⟩).comparable = true) ∧
    (prices.traits ⟨"Loop", .named "Loop"⟩).ordered = false := by
  have ⟨ho, hc⟩ := capabilities_nested prices ⟨"Price", .named "Price"⟩
  have hn : (prices.traits ⟨"Price", .named "Price"⟩).numeric = true := by decide
  exact ⟨⟨hn, ho hn, hc (ho hn)⟩, by decide⟩

end TypeModel
end CollectionPlan
