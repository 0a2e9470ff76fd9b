import CollectionPlan.Directive
import CollectionPlan.Proofs.Text.Line

namespace CollectionPlan

namespace Text

variable {key cs before after front back : List Char}

-- What is found is there.
theorem eq_of_breakOn (h : breakOn key cs = some (before, after)) : cs = before ++ key ++ after := by
  induction cs generalizing before
  case nil => simp_all [breakOn]
  case cons c cs ih =>
    simp only [breakOn] at h
    split at h
    case isTrue hp =>
      cases h
      have ⟨rest, hr⟩ := List.isPrefixOf_iff_prefix.mp hp
      simp [←hr]
    case isFalse =>
      obtain ⟨⟨_, _⟩, hb, he⟩ := Option.map_eq_some_iff.mp h
      cases he
      simp [ih hb]

-- What is there is found, and no place in front of it is missed.
theorem breakOn_of_eq (he : cs = front ++ key ++ back) :
    ∃ before after, breakOn key cs = some (before, after) ∧ back <:+ after := by
  induction cs generalizing front
  case nil => simp_all [breakOn]
  case cons c cs ih =>
    simp only [breakOn]
    split
    case isTrue =>
      have hb : ((c :: cs).drop key.length).drop front.length = back := by
        rw [List.drop_drop, he, List.drop_left' (by simp [Nat.add_comm])]
      exact ⟨_, _, rfl, hb ▸ List.drop_suffix ..⟩
    case isFalse hp =>
      cases front
      case nil => simp [he] at hp
      case cons =>
        cases he
        have ⟨before, after, hb, hs⟩ := ih rfl
        exact ⟨_, _, by rw [hb]; rfl, hs⟩

theorem breakOn_append : breakOn key (key ++ after) = some ([], after) := by
  cases hc : key ++ after
  case nil       => simp_all [breakOn]
  case cons c cs =>
    have hp : key.isPrefixOf (c :: cs) = true :=
      List.isPrefixOf_iff_prefix.mpr (hc ▸ List.prefix_append ..)
    rw [breakOn, if_pos hp, ←hc, List.drop_left]

end Text

namespace Tag

variable {key other : Key} {cs value back : List Char}

-- The last quote of a text.

theorem beforeLastQuote?_append (h : '"' ∉ back) :
    beforeLastQuote? (value ++ '"' :: back) = some value := by
  have hr : (value ++ '"' :: back).reverse = back.reverse ++ '"' :: value.reverse := by simp
  rw [beforeLastQuote?, hr, List.dropWhile_append_of_pos (Text.ne_of_not_mem (by simpa using h))]
  simp

theorem beforeLastQuote?_eq_none (h : '"' ∉ cs) : beforeLastQuote? cs = none := by
  have hd : cs.reverse.dropWhile (· ≠ '"') = [] := by
    rw [←List.append_nil cs.reverse, List.dropWhile_append_of_pos (Text.ne_of_not_mem (by simpa using h)),
      List.dropWhile_nil]
  rw [beforeLastQuote?, hd]

theorem beforeLastQuote?_eq_some_iff : beforeLastQuote? cs = some value ↔
    ∃ back, cs = value ++ '"' :: back ∧ '"' ∉ back := by
  constructor
  case mp =>
    intro h
    by_cases hm : '"' ∈ cs
    case neg => cases (beforeLastQuote?_eq_none hm).symm.trans h
    case pos =>
      obtain ⟨value', back, rfl, hb⟩ := Text.exists_last hm
      cases (beforeLastQuote?_append hb).symm.trans h
      exact ⟨back, rfl, hb⟩
  case mpr =>
    rintro ⟨back, rfl, hb⟩
    exact beforeLastQuote?_append hb

-- Tags.

-- A tag stands somewhere in a text: its opening, and a quote behind it.
def Occurs (key : Key) (text : List Char) : Prop :=
  ∃ front value back, text = front ++ key.opening ++ value ++ '"' :: back

theorem isSome_value?_iff : (value? key cs).isSome ↔ Occurs key cs := by
  constructor
  case mp =>
    intro h
    have ⟨value, h⟩ := Option.isSome_iff_exists.mp h
    have ⟨⟨front, after⟩, hb, hl⟩ := Option.bind_eq_some_iff.mp h
    have ⟨back, he, _⟩ := beforeLastQuote?_eq_some_iff.mp hl
    refine ⟨front, value, back, ?_⟩
    rw [Text.eq_of_breakOn hb, he]
    simp
  case mpr =>
    rintro ⟨front, value, back, he⟩
    have ⟨before, after, hb, hs⟩ := Text.breakOn_of_eq (he.trans (List.append_assoc ..))
    have hm : '"' ∈ after := hs.subset (by simp)
    obtain ⟨value, back, rfl, hq⟩ := Text.exists_last hm
    simp [value?, hb, beforeLastQuote?_append hq]

instance : Decidable (Occurs key cs) :=
  decidable_of_iff _ isSome_value?_iff

instance : Decidable (∀ key, ¬Occurs key cs) :=
  decidable_of_iff (¬Occurs .methods cs ∧ ¬Occurs .projections cs)
    ⟨fun h key => key.rec h.left h.right, fun h => ⟨h _, h _⟩⟩

theorem ofToken?_eq_none_iff : ofToken? key cs = none ↔ ¬Occurs key cs := by
  rw [ofToken?, Option.map_eq_none_iff, ←isSome_value?_iff, Option.not_isSome_iff_eq_none]

-- The value of a tag that makes up a whole word reaches from quote to quote.
theorem value?_whole : value? key (key.opening ++ value ++ ['"']) = some value := by
  have hl : beforeLastQuote? (value ++ ['"']) = some value := beforeLastQuote?_append List.not_mem_nil
  rw [value?, List.append_assoc, Text.breakOn_append]
  exact hl

-- What stands in front of the first quote of a tag.
def Key.label (key : Key) : List Char :=
  (key.text ++ ":").toList

theorem Key.opening_eq : key.opening = key.label ++ ['"'] := by
  cases key <;> rfl

theorem Key.not_mem_label : '"' ∉ key.label := by
  cases key <;> decide

theorem Key.not_label_suffix (h : other ≠ key) : ¬other.label <:+ key.label := by
  revert h
  cases key <;> cases other <;> decide

theorem takeWhile_ne_quote (h : '"' ∉ cs) : (cs ++ '"' :: back).takeWhile (· ≠ '"') = cs := by
  rw [List.takeWhile_append_of_pos (Text.ne_of_not_mem h)]
  simp

-- A tag is named in front of its first quote. One without quotes in its value is never read under the other
-- name, even if its value ends with this name.
theorem not_occurs_whole (hk : other ≠ key) (hv : '"' ∉ value) :
    ¬Occurs other (key.opening ++ value ++ ['"']) := by
  rintro ⟨front, value', back, he⟩
  have he : key.label ++ '"' :: (value ++ ['"']) =
      (front ++ other.label) ++ '"' :: (value' ++ '"' :: back) := by
    simpa [Key.opening_eq] using he
  -- There are two quotes, so the one behind the other label is the first.
  have hf : '"' ∉ front := by
    have hc := congrArg (List.count '"') he
    simp only [List.count_append, List.count_cons_self, List.count_nil, List.count_eq_zero_of_not_mem hv,
      List.count_eq_zero_of_not_mem Key.not_mem_label] at hc
    exact List.count_eq_zero.mp (by omega)
  have ht := congrArg (List.takeWhile (· ≠ '"')) he
  rw [takeWhile_ne_quote Key.not_mem_label, takeWhile_ne_quote (by simp [hf, Key.not_mem_label])] at ht
  exact Key.not_label_suffix hk ⟨front, ht.symm⟩

end Tag
end CollectionPlan
