import CollectionPlan.Plan.LegacyTag
import Mathlib.Data.List.Infix
import Mathlib.Data.List.TakeWhile

namespace CollectionPlan.LegacyTag

def Blank (cs : List Char) : Prop :=
  ∀ c ∈ cs, Text.isBlank c

-- The texts that the search is for: the start of a retired attribute up to the sign that opens its list or its
-- value, with or without blanks between the parts.
inductive Spelled : List Char → Prop
  | intro (h₁ : Blank w₁) (h₂ : Blank w₂) (h₃ : Blank w₃) (hs : sign ∈ ['(', '=']) :
    Spelled ('#' :: (w₁ ++ '[' :: (w₂ ++ (name ++ (w₃ ++ [sign])))))

-- Whether the start of a retired attribute stands somewhere in a text.
def Mentions (cs : List Char) : Prop :=
  ∃ tag, Spelled tag ∧ tag <:+: cs

variable {w key cs rest tag front behind : List Char} {c : Char}

theorem Blank.not_mem (h : Blank w) (hc : Text.isBlank c = false) : c ∉ w :=
  fun hm => Bool.false_ne_true (hc.symm.trans (h c hm))

theorem skipBlank_append (hw : Blank w) (hc : Text.isBlank c = false) : skipBlank (w ++ c :: cs) = c :: cs := by
  rw [skipBlank, List.dropWhile_append_of_pos hw, List.dropWhile_cons_of_neg (by simp [hc])]

theorem skipBlank_split (cs : List Char) : ∃ w, Blank w ∧ cs = w ++ skipBlank cs :=
  ⟨cs.takeWhile Text.isBlank, fun _ h => List.mem_takeWhile_imp h, List.takeWhile_append_dropWhile.symm⟩

-- What is left behind a key that no blank starts is what stands behind blanks and the key.
theorem after?_eq_some_iff (hk : key.head?.any (!Text.isBlank ·)) :
    after? key cs = some rest ↔ ∃ w, Blank w ∧ cs = w ++ (key ++ rest) where
  mp h := by
    obtain ⟨w, hw, hs⟩ := skipBlank_split cs
    rw [after?, Option.ite_none_right_eq_some, Option.some.injEq, List.isPrefixOf_iff_prefix] at h
    obtain ⟨⟨tail, ht⟩, rfl⟩ := h
    refine ⟨w, hw, ?_⟩
    rw [← ht, List.drop_left, ht, ← hs]
  mpr := by
    rintro ⟨w, hw, rfl⟩
    have hs : skipBlank (w ++ (key ++ rest)) = key ++ rest := by
      cases key
      case nil  => cases hk
      case cons => exact skipBlank_append hw (by simpa using hk)
    rw [after?, hs, if_pos (by simp), List.drop_left]

theorem isBlank_sign (h : c ∈ ['(', '=']) : Text.isBlank c = false := by
  rcases List.mem_pair.mp h with rfl | rfl <;> decide

theorem skipBlank_sign_iff : ((skipBlank cs).head?.any fun c => c = '(' || c = '=') = true ↔
    ∃ w sign rest, Blank w ∧ sign ∈ ['(', '='] ∧ cs = w ++ sign :: rest where
  mp h := by
    obtain ⟨w, hw, hs⟩ := skipBlank_split cs
    obtain ⟨sign, hh, hc⟩ := (Option.any_eq_true _ _).mp h
    obtain ⟨rest, hr⟩ := List.head?_eq_some_iff.mp hh
    exact ⟨w, sign, rest, hw, by simpa using hc, hr ▸ hs⟩
  mpr := by
    rintro ⟨w, sign, rest, hw, hs, rfl⟩
    simpa [skipBlank_append hw (isBlank_sign hs)] using hs

theorem startsAttribute_iff : startsAttribute cs ↔ ∃ tag, Spelled ('#' :: tag) ∧ tag <+: cs where
  mp h := by
    unfold startsAttribute at h
    split at h
    case h_2 => cases h
    case h_1 rest hr =>
      obtain ⟨inner, hi, hn⟩ := Option.bind_eq_some_iff.mp hr
      obtain ⟨w₁, h₁, rfl⟩ := (after?_eq_some_iff (by decide)).mp hi
      obtain ⟨w₂, h₂, rfl⟩ := (after?_eq_some_iff (by decide)).mp hn
      obtain ⟨w₃, sign, rest, h₃, hs, rfl⟩ := skipBlank_sign_iff.mp h
      exact ⟨_, .intro h₁ h₂ h₃ hs, rest, by simp⟩
  mpr := by
    rintro ⟨_, @⟨w₁, w₂, w₃, sign, h₁, h₂, h₃, hs⟩, rest, rfl⟩
    have hi : after? ['['] (w₁ ++ '[' :: (w₂ ++ (name ++ (w₃ ++ [sign]))) ++ rest) =
        some (w₂ ++ (name ++ (w₃ ++ sign :: rest))) :=
      (after?_eq_some_iff (by decide)).mpr ⟨w₁, h₁, by simp⟩
    have hn : after? name (w₂ ++ (name ++ (w₃ ++ sign :: rest))) = some (w₃ ++ sign :: rest) :=
      (after?_eq_some_iff (by decide)).mpr ⟨w₂, h₂, rfl⟩
    simp only [startsAttribute, hi, Option.bind_eq_bind, Option.bind_some, hn]
    exact skipBlank_sign_iff.mpr ⟨w₃, sign, rest, h₃, hs, rfl⟩

theorem Spelled.eq_cons (h : Spelled tag) : ∃ tail, tag = '#' :: tail := by
  cases h
  exact ⟨_, rfl⟩

-- The search stops at the first place where an attribute starts, and misses none.
theorem occursIn_iff : occursIn cs ↔ Mentions cs := by
  induction cs
  case nil =>
    refine ⟨nofun, ?_⟩
    rintro ⟨_, ⟨⟩, hi⟩
    cases List.infix_nil.mp hi
  case cons c cs ih =>
    rw [occursIn, Bool.or_eq_true, ih, Bool.and_eq_true, decide_eq_true_eq, startsAttribute_iff]
    constructor
    · rintro (⟨rfl, tag, ht, hp⟩ | ⟨tag, ht, hi⟩)
      · exact ⟨_, ht, ((List.prefix_cons_inj _).mpr hp).isInfix⟩
      · exact ⟨tag, ht, List.infix_cons hi⟩
    · rintro ⟨tag, ht, hi⟩
      obtain hp | hi := List.infix_cons_iff.mp hi
      case inr => exact .inr ⟨tag, ht, hi⟩
      case inl =>
        obtain ⟨tail, rfl⟩ := ht.eq_cons
        have ⟨hc, hp⟩ := List.cons_prefix_cons.mp hp
        exact .inl ⟨hc.symm, tail, hc ▸ ht, hp⟩

theorem has_iff {rawTag : String} : has rawTag ↔ Mentions rawTag.toList :=
  occursIn_iff

-- A character that occurs in nothing that the search is for, so that a text can be cut there.
structure Apart (c : Char) : Prop where
  blank : Text.isBlank c = false
  part  : c ∉ '#' :: '[' :: '(' :: '=' :: name

theorem Spelled.not_mem (h : Spelled tag) (hc : Apart c) : c ∉ tag := by
  have hb := hc.blank
  have hc := hc.part
  simp only [List.mem_cons, not_or] at hc
  cases h
  case intro sign h₁ h₂ h₃ hs =>
    have hs : c ≠ sign := by
      rintro rfl
      simp_all
    simp [hc, hs, h₁.not_mem hb, h₂.not_mem hb, h₃.not_mem hb]

theorem Spelled.isBlank_getLast (h : Spelled (tag ++ [c])) : Text.isBlank c = false := by
  generalize ht : tag ++ [c] = t at h
  cases h
  case intro w₁ w₂ w₃ sign _ _ _ hs =>
    have he : tag ++ [c] = ('#' :: (w₁ ++ '[' :: (w₂ ++ (name ++ w₃)))) ++ [sign] := by simp [ht]
    obtain ⟨-, hc⟩ := List.append_inj' he rfl
    cases hc
    exact isBlank_sign hs

theorem Spelled.infix_append_iff (h : Spelled tag) (hc : Apart c) :
    tag <:+: front ++ c :: behind ↔ tag <:+: front ∨ tag <:+: behind where
  mp hi := by
    obtain ⟨tail, ht⟩ := h.eq_cons
    have hs : '#' ≠ c := fun he => hc.part (he ▸ List.mem_cons_self)
    rcases List.infix_append_iff.mp hi with hf | hb | ⟨tag₁, tag₂, rfl, hf, hb⟩
    · exact .inl hf
    · obtain hp | hi := List.infix_cons_iff.mp hb
      · exact absurd (List.cons_prefix_cons.mp (ht ▸ hp)).left hs
      · exact .inr hi
    · cases tag₂
      case nil => exact .inl (by simpa using hf.isInfix)
      case cons =>
        have he := (List.cons_prefix_cons.mp hb).left
        exact absurd (by simp [he]) (h.not_mem hc)
  mpr := by
    rintro (hf | hb)
    · exact hf.trans (List.prefix_append ..).isInfix
    · exact (List.infix_cons hb).trans (List.suffix_append ..).isInfix

theorem occursIn_cut (hc : Apart c) :
    occursIn (front ++ c :: behind) = (occursIn front || occursIn behind) := by
  rw [Bool.eq_iff_iff, Bool.or_eq_true, occursIn_iff, occursIn_iff, occursIn_iff]
  simp only [Mentions, ← exists_or, ← and_or_left]
  exact exists_congr fun _ => and_congr_right fun h => h.infix_append_iff hc

theorem occursIn_append_of_not_mem (h : '#' ∉ front) : occursIn (front ++ behind) = occursIn behind := by
  induction front
  case nil => rfl
  case cons c front ih =>
    rw [List.mem_cons, not_or] at h
    simp [occursIn, Ne.symm h.left, ih h.right]

theorem occursIn_concat_blank (hc : Text.isBlank c) : occursIn (cs ++ [c]) = occursIn cs := by
  rw [Bool.eq_iff_iff, occursIn_iff, occursIn_iff]
  refine exists_congr fun tag => and_congr_right fun h => ?_
  rw [List.infix_concat_iff, List.suffix_concat_iff, or_iff_right]
  rintro (rfl | ⟨_, rfl, _⟩)
  · cases h
  · exact Bool.false_ne_true (h.isBlank_getLast.symm.trans hc)

end CollectionPlan.LegacyTag
