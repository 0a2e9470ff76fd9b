import CollectionPlan.Proofs.Text.Line
import CollectionPlan.Terminal.Style
import CollectionPlan.Text.Digits

namespace CollectionPlan.Terminal

variable {cs rest : List Char} {c : Char} {s t s₁ s₂ t₁ t₂ : String} {codes : List String}
  {colors : Bool} {style : Style}

def isCodeChar (c : Char) : Bool :=
  Text.isAsciiDigit c || c = ';'

-- What stands behind a sequence, if a text begins with one.
def behindSequence? : List Char → Option (List Char)
  | '\x1b' :: '[' :: cs =>
    match cs.dropWhile isCodeChar with
    | 'm' :: rest => some rest
    | _           => none
  | _ => none

theorem length_behindSequence? (h : behindSequence? cs = some rest) : rest.length < cs.length := by
  fun_cases behindSequence? cs
  case case1 cs rest' hd =>
    have hl := (List.dropWhile_suffix isCodeChar (l := cs)).length_le
    simp_all [behindSequence?]
    omega
  all_goals simp_all [behindSequence?]

-- A text without its sequences. An escape that begins none is a character like any other.
def strip : List Char → List Char
  | []      => []
  | c :: cs =>
    match _h : behindSequence? (c :: cs) with
    | some rest => strip rest
    | none      => c :: strip cs
termination_by cs => cs.length
decreasing_by
  · exact length_behindSequence? _h
  · simp

theorem strip_of_behindSequence? (h : behindSequence? cs = some rest) : strip cs = strip rest := by
  cases cs
  case nil => cases h
  case cons =>
    rw [strip]
    split <;> simp_all

theorem strip_sequence (h : ∀ code ∈ codes, code.toList.all isCodeChar) :
    strip (Style.sequence codes ++ rest) = strip rest := by
  have hc : ∀ c ∈ (";".intercalate codes).toList, isCodeChar c := by
    intro c hc
    rcases Text.mem_of_mem_toList_intercalate hc with hc | ⟨code, hm, hc⟩
    · exact List.mem_singleton.mp hc ▸ (by decide)
    · exact List.all_eq_true.mp (h code hm) c hc
  have hd : ((";".intercalate codes).toList ++ 'm' :: rest).dropWhile isCodeChar = 'm' :: rest :=
    List.dropWhile_append_of_pos hc
  refine strip_of_behindSequence? ?_
  simp only [Style.sequence, List.cons_append, List.append_assoc, List.nil_append, behindSequence?,
    hd]

theorem strip_cons (h : c ≠ '\x1b') : strip (c :: cs) = c :: strip cs := by
  have hn : behindSequence? (c :: cs) = none := by simp [behindSequence?, h]
  rw [strip]
  split
  · simp_all
  · rfl

theorem strip_append (h : '\x1b' ∉ cs) : strip (cs ++ rest) = cs ++ strip rest := by
  induction cs
  case nil => rfl
  case cons c cs ih =>
    simp only [List.mem_cons, not_or] at h
    rw [List.cons_append, strip_cons (Ne.symm h.left), ih h.right, List.cons_append]

def stripped (s : String) : String :=
  String.ofList (strip s.toList)

-- A text in which no sequence can begin.
def IsPlain (s : String) : Prop :=
  '\x1b' ∉ s.toList

instance : Decidable (IsPlain s) :=
  inferInstanceAs (Decidable ('\x1b' ∉ s.toList))

namespace IsPlain

theorem append (hs : IsPlain s) (ht : IsPlain t) : IsPlain (s ++ t) := by
  simpa [IsPlain] using And.intro hs ht

theorem intercalate {texts : List String} (hs : IsPlain s) (ht : ∀ t ∈ texts, IsPlain t) :
    IsPlain (s.intercalate texts) := by
  intro h
  rcases Text.mem_of_mem_toList_intercalate h with h | ⟨t, hm, h⟩
  · exact hs h
  · exact ht t hm h

theorem repr (n : Nat) : IsPlain (toString n) := by
  intro h
  have hd := Nat.isDigit_of_mem_toDigits (by decide) (by decide) (Nat.toList_repr ▸ h)
  exact absurd hd (by decide)

theorem replicate {n : Nat} (h : c ≠ '\x1b') : IsPlain (String.ofList (List.replicate n c)) := by
  intro hm
  rw [String.toList_ofList] at hm
  exact h (List.eq_of_mem_replicate hm).symm

end IsPlain

namespace Style

theorem isCodeChar_of_mem_codes : ∀ code ∈ style.codes, code.toList.all isCodeChar := by
  intro code h
  have hc (color : Color) : color.code.toList.all isCodeChar := by cases color <;> decide
  simp only [codes, List.mem_append, List.mem_ite_nil_right, List.mem_singleton] at h
  rcases h with (⟨-, rfl⟩ | ⟨-, rfl⟩) | h
  · decide
  · decide
  · cases hs : style.color
    case none       => simp [hs] at h
    case some color =>
      have he : code = color.code := by simpa [hs] using h
      exact he ▸ hc color

theorem resume_eq {start : List Char} (h : '\x1b' ∉ cs) : resume start cs = cs := by
  fun_induction resume start cs
  case case1 => simp at h
  case case2 ih => simp_all
  case case3 => rfl

end Style

-- A text shows another one if this is what is left of it, whatever stands behind it.
def Shows (styled plain : String) : Prop :=
  ∀ rest, strip (styled.toList ++ rest) = plain.toList ++ strip rest

namespace Shows

theorem of_plain (h : IsPlain s) : Shows s s :=
  fun _ => strip_append h

theorem append (h₁ : Shows s₁ t₁) (h₂ : Shows s₂ t₂) : Shows (s₁ ++ s₂) (t₁ ++ t₂) := by
  intro rest
  simp only [String.toList_append, List.append_assoc]
  rw [h₁, h₂]

theorem plain_append (hs : Shows s₁ s₂) (h : IsPlain t) : Shows (t ++ s₁) (t ++ s₂) :=
  append (of_plain h) hs

theorem append_plain (hs : Shows s₁ s₂) (h : IsPlain t) : Shows (s₁ ++ t) (s₂ ++ t) :=
  append hs (of_plain h)

-- What is painted is the text between two sequences.
theorem paint (h : IsPlain s) : Shows (style.paint colors s) (style.paint false s) := by
  intro rest
  unfold Style.paint
  split
  · exact strip_append h
  · have hr : ∀ code ∈ ["0"], code.toList.all isCodeChar := by decide
    simp only [String.toList_ofList, Style.resume_eq h, List.append_assoc]
    rw [strip_sequence Style.isCodeChar_of_mem_codes, strip_append h, Style.reset, strip_sequence hr]
    rfl

theorem stripped_eq (h : Shows s t) : stripped s = t := by
  have hs : strip s.toList = t.toList := by simpa [strip] using h []
  rw [stripped, hs, String.ofList_toList]

end Shows

end CollectionPlan.Terminal
