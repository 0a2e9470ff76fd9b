import CollectionPlan.Proofs.LegacyTag.Pattern

namespace CollectionPlan.LegacyTag

-- The two sides of a place where blanks do not matter.
inductive Gap : String → String → Prop
  | bracket : Gap "#" "["
  | name : Gap "[" "collgen"
  | sign (h : sign ∈ ["(", "="]) : Gap "collgen" sign

variable {w w' w₁ w₂ w₃ cs cs' tag front behind : List Char} {c c' mark sign : Char}

-- Blanks in front of something else end in one place only.
theorem Blank.append_inj (hw : Blank w) (hw' : Blank w') (hc : Text.isBlank c = false)
    (hc' : Text.isBlank c' = false) (h : w ++ c :: cs = w' ++ c' :: cs') : w = w' ∧ c :: cs = c' :: cs' := by
  have hs : c :: cs = c' :: cs' := by
    have hs := congrArg skipBlank h
    rwa [skipBlank_append hw hc, skipBlank_append hw' hc'] at hs
  exact ⟨List.append_cancel_right (hs ▸ h), hs⟩

-- What a gap follows. The last letter of the name stands for the name.
def marks : List Char :=
  ['#', '[', 'n']

theorem isBlank_mark (h : mark ∈ marks) : Text.isBlank mark = false := by
  have hm : marks.all (!Text.isBlank ·) := by decide
  simpa using List.all_eq_true.mp hm mark h

theorem mark_ne_sign (h : mark ∈ marks) (hs : sign ∈ ['(', '=']) : mark ≠ sign := by
  rintro rfl
  rcases List.mem_pair.mp hs with rfl | rfl <;> simp [marks] at h

-- No mark comes twice, and behind each of them other blanks do as well.
theorem Spelled.exists_gap (h : Spelled tag) (hl : mark ∈ marks) :
    ∃ front w c behind, tag = front ++ mark :: (w ++ c :: behind) ∧ mark ∉ front ∧ mark ∉ w ++ c :: behind ∧
      Blank w ∧ Text.isBlank c = false ∧ ∀ w', Blank w' → Spelled (front ++ mark :: (w' ++ c :: behind)) := by
  cases h
  case intro w₁ w₂ w₃ sign h₁ h₂ h₃ hs =>
    have hb := isBlank_mark hl
    have hw₁ := h₁.not_mem hb
    have hw₂ := h₂.not_mem hb
    have hw₃ := h₃.not_mem hb
    have hm := mark_ne_sign hl hs
    simp only [marks, List.mem_cons, List.not_mem_nil, or_false] at hl
    rcases hl with rfl | rfl | rfl
    case inl =>
      have hn : '#' ∉ name := by decide
      refine ⟨[], w₁, '[', w₂ ++ (name ++ (w₃ ++ [sign])), rfl, List.not_mem_nil, ?_, h₁, rfl,
        fun w' hw' => .intro hw' h₂ h₃ hs⟩
      simp [hw₁, hw₂, hw₃, hm, hn]
    case inr.inl =>
      have hn : '[' ∉ name := by decide
      have ⟨rest, hc⟩ : ∃ rest, name = 'c' :: rest := ⟨_, rfl⟩
      refine ⟨'#' :: w₁, w₂, 'c', rest ++ (w₃ ++ [sign]), ?_, ?_, ?_, h₂, rfl, fun w' hw' => ?_⟩
      · simp [hc]
      · simp [hw₁]
      · rw [hc] at hn
        simp_all
      · simpa [hc] using Spelled.intro h₁ hw' h₃ hs
    case inr.inr =>
      have ⟨init, hc, hn⟩ : ∃ init, name = init ++ ['n'] ∧ 'n' ∉ init :=
        ⟨"collge".toList, by decide, by decide⟩
      refine ⟨'#' :: (w₁ ++ '[' :: (w₂ ++ init)), w₃, sign, [], ?_, ?_, ?_, h₃, isBlank_sign hs, fun w' hw' => ?_⟩
      · simp [hc]
      · simp [hw₁, hw₂, hn]
      · simp [hw₃, hm]
      · simpa [hc] using Spelled.intro h₁ h₂ hw' hs

theorem Spelled.respace (h : Spelled (front ++ mark :: (w ++ c :: behind))) (hl : mark ∈ marks)
    (hw : Blank w) (hw' : Blank w') (hc : Text.isBlank c = false) :
    Spelled (front ++ mark :: (w' ++ c :: behind)) := by
  obtain ⟨front', v, c', behind', ht, hf, hb, hv, hc', hs⟩ := h.exists_gap hl
  obtain ⟨rfl, -, he⟩ := (List.append_cons_inj_of_notMem hf hb).mp ht.symm
  obtain ⟨rfl, hr⟩ := hv.append_inj hw hc' hc he
  cases hr
  exact hs w' hw'

-- No tag starts or ends among blanks.

theorem Spelled.infix_of_blank_append (h : Spelled tag) (hw : Blank w) (hi : tag <:+: w ++ cs) :
    tag <:+: cs := by
  induction w
  case nil => exact hi
  case cons b w ih =>
    obtain ⟨hb, hw⟩ := List.forall_mem_cons.mp hw
    obtain hp | hi := List.infix_cons_iff.mp hi
    case inl =>
      obtain ⟨_, rfl⟩ := h.eq_cons
      cases (List.cons_prefix_cons.mp hp).left
      cases hb
    case inr => exact ih hw hi

theorem Spelled.eq_nil_of_blank (h : Spelled (cs ++ w)) (hw : Blank w) : w = [] := by
  obtain rfl | ⟨init, b, rfl⟩ := w.eq_nil_or_concat'
  · rfl
  · rw [←List.append_assoc] at h
    exact absurd (hw b (by simp)) (Bool.eq_false_iff.mp h.isBlank_getLast)

theorem prefix_append_cons (h : cs <+: w ++ c :: behind) : cs <+: w ∨ ∃ t, cs = w ++ c :: t ∧ t <+: behind := by
  have hc : w ++ [c] <+: w ++ c :: behind := ⟨behind, by simp⟩
  obtain hs | ⟨t, rfl⟩ := List.prefix_or_prefix_of_prefix h hc
  case inl =>
    obtain rfl | hs := List.prefix_concat_iff.mp hs
    · exact .inr ⟨[], rfl, List.nil_prefix⟩
    · exact .inl hs
  case inr => exact .inr ⟨t, by simp, by simpa using h⟩

-- What is found stays to be found with other blanks behind a mark: they are no part of it, or they are one
-- of its gaps.
theorem Mentions.respace (h : Mentions (front ++ mark :: (w ++ c :: behind))) (hl : mark ∈ marks)
    (hw : Blank w) (hw' : Blank w') (hc : Text.isBlank c = false) :
    Mentions (front ++ mark :: (w' ++ c :: behind)) := by
  obtain ⟨tag, ht, hi⟩ := h
  have of_front (hf : tag <:+: front ++ [mark]) : Mentions (front ++ mark :: (w' ++ c :: behind)) :=
    ⟨tag, ht, hf.trans ⟨[], w' ++ c :: behind, by simp⟩⟩
  have of_behind (hb : tag <:+: w ++ c :: behind) : Mentions (front ++ mark :: (w' ++ c :: behind)) :=
    ⟨tag, ht, (ht.infix_of_blank_append hw hb).trans ⟨front ++ mark :: w', [], by simp⟩⟩
  rw [List.append_cons, List.infix_append_iff] at hi
  rcases hi with hf | hb | ⟨t₁, t₂, rfl, hf, hb⟩
  case inl => exact of_front hf
  case inr.inl => exact of_behind hb
  case inr.inr =>
    rcases List.suffix_concat_iff.mp hf with rfl | ⟨t, rfl, ⟨init, rfl⟩⟩
    case inl => exact of_behind hb.isInfix
    case inr =>
      obtain hs | ⟨t₃, rfl, hs⟩ := prefix_append_cons hb
      case inl =>
        have hn := ht.eq_nil_of_blank fun b hm => hw b (hs.subset hm)
        exact of_front (by simpa [hn] using hf.isInfix)
      case inr =>
        obtain ⟨rest, rfl⟩ := hs
        rw [←List.append_cons] at ht
        exact ⟨_, ht.respace hl hw hw' hc, init, rest, by simp⟩

theorem Gap.ends (h : Gap left right) : ∃ init mark c rest, left.toList = init ++ [mark] ∧ mark ∈ marks ∧
    right.toList = c :: rest ∧ Text.isBlank c = false := by
  cases h
  case bracket => exact ⟨[], '#', '[', [], rfl, by decide, rfl, rfl⟩
  case name    => exact ⟨[], '[', 'c', "ollgen".toList, rfl, by decide, rfl, rfl⟩
  case sign hs =>
    rcases List.mem_pair.mp hs with rfl | rfl
    · exact ⟨"collge".toList, 'n', '(', [], rfl, by decide, rfl, rfl⟩
    · exact ⟨"collge".toList, 'n', '=', [], rfl, by decide, rfl, rfl⟩

theorem Gap.has_of_has {front w w' behind : String} (h : Gap left right) (hw : Blank w.toList)
    (hw' : Blank w'.toList) (hh : has (front ++ left ++ w ++ right ++ behind)) :
    has (front ++ left ++ w' ++ right ++ behind) := by
  obtain ⟨init, mark, c, rest, hl, hm, hr, hc⟩ := h.ends
  rw [has_iff] at hh ⊢
  simp only [String.toList_append, hl, hr, List.append_assoc, List.cons_append] at hh ⊢
  rw [←List.append_assoc] at hh ⊢
  exact hh.respace hm hw hw' hc

theorem has_iff_exists {s : String} : has s ↔ ∃ front w₁ w₂ w₃ sign behind : String,
    Blank w₁.toList ∧ Blank w₂.toList ∧ Blank w₃.toList ∧ sign ∈ ["(", "="] ∧
      s = front ++ "#" ++ w₁ ++ "[" ++ w₂ ++ "collgen" ++ w₃ ++ sign ++ behind := by
  have hn : "collgen".toList = name := rfl
  rw [has_iff]
  constructor
  case mp =>
    rintro ⟨_, @⟨w₁, w₂, w₃, sign, h₁, h₂, h₃, hs⟩, front, behind, ht⟩
    have hs' : String.singleton sign ∈ ["(", "="] := by
      rcases List.mem_pair.mp hs with rfl | rfl <;> decide
    refine ⟨.ofList front, .ofList w₁, .ofList w₂, .ofList w₃, .singleton sign, .ofList behind, ?_⟩
    refine ⟨by simpa using h₁, by simpa using h₂, by simpa using h₃, hs', String.toList_inj.mp ?_⟩
    simp [←ht, hn]
  case mpr =>
    rintro ⟨front, w₁, w₂, w₃, sign, behind, h₁, h₂, h₃, hs, rfl⟩
    obtain ⟨c, hc, rfl⟩ : ∃ c ∈ ['(', '='], sign = String.singleton c := by
      rcases List.mem_pair.mp hs with rfl | rfl
      · exact ⟨'(', by simp, rfl⟩
      · exact ⟨'=', by simp, rfl⟩
    exact ⟨_, .intro h₁ h₂ h₃ hc, front.toList, behind.toList, by simp [hn]⟩

theorem has_append {front s behind : String} (h : has s) : has (front ++ s ++ behind) := by
  obtain ⟨tag, ht, hi⟩ := has_iff.mp h
  refine has_iff.mpr ⟨tag, ht, hi.trans ⟨front.toList, behind.toList, ?_⟩⟩
  simp

-- The search finds the start of a retired attribute wherever it stands, however its parts are spaced, and
-- nothing else. So what stands around it does not matter, and neither do blanks in its gaps, be the text one
-- in which something is found or not.
theorem has_iff_spelled_anywhere :
    (∀ s, has s ↔ ∃ front w₁ w₂ w₃ sign behind : String,
      Blank w₁.toList ∧ Blank w₂.toList ∧ Blank w₃.toList ∧ sign ∈ ["(", "="] ∧
        s = front ++ "#" ++ w₁ ++ "[" ++ w₂ ++ "collgen" ++ w₃ ++ sign ++ behind) ∧
    (∀ front s behind, has s → has (front ++ s ++ behind)) ∧
    ∀ left right, Gap left right → ∀ front w w' behind : String, Blank w.toList → Blank w'.toList →
      has (front ++ left ++ w ++ right ++ behind) = has (front ++ left ++ w' ++ right ++ behind) := by
  refine ⟨fun _ => has_iff_exists, fun _ _ _ => has_append, fun left right h front w w' behind hw hw' => ?_⟩
  exact Bool.eq_iff_iff.mpr ⟨h.has_of_has hw hw', h.has_of_has hw' hw⟩

instance : Decidable (Blank w) :=
  decidable_of_iff (w.all Text.isBlank) List.all_eq_true

-- The search goes on behind what only looks like a start, and a thin space (U+2009) is a blank as well.
theorem has_iff_spelled_anywhere_restarts :
    has "#[ collgen (" ∧ has "#[collgen #[ collgen (x)]" ∧ Gap "#" "[" ∧
    has "#[collgen # \t[ collgen (x)]" = has "#[collgen #\u2009[ collgen (x)]" := by
  have ⟨hs, ha, hg⟩ := has_iff_spelled_anywhere
  have hb : has "#[ collgen (" :=
    (hs _).mpr ⟨"", "", " ", " ", "(", "", by decide, by decide, by decide, by decide, by decide⟩
  have hf : "#[collgen #[ collgen (x)]" = "#[collgen " ++ "#[ collgen (" ++ "x)]" := by decide
  have ht : "#[collgen # \t[ collgen (x)]" = "#[collgen " ++ "#" ++ " \t" ++ "[" ++ " collgen (x)]" := by decide
  have hu : "#[collgen #\u2009[ collgen (x)]" = "#[collgen " ++ "#" ++ "\u2009" ++ "[" ++ " collgen (x)]" := by
    decide
  rw [hf, ht, hu]
  exact ⟨hb, ha _ _ _ hb, .bracket, hg _ _ .bracket _ _ _ _ (by decide) (by decide)⟩

end CollectionPlan.LegacyTag
