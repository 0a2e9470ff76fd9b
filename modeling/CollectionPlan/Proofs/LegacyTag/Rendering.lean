import CollectionPlan.Proofs.Grammar.Word
import CollectionPlan.Proofs.LegacyTag.Pattern

namespace CollectionPlan

variable {c d : Char} {cs : List Char} {s t : String} {w : Word}

namespace Text

theorem ne_of_isIdentContinue (h : isIdentContinue c) (hd : isIdentContinue d = false) : c ≠ d := by
  rintro rfl
  exact Bool.false_ne_true (hd.symm.trans h)

theorem isBlank_eq_false (h : isIdentContinue c) : isBlank c = false := by
  have hd : ∀ n ∈ spaces, isIdentContinue (Char.ofNat n) = false := by decide +kernel
  by_contra hb
  have hc := hd _ (toNat_mem_spaces (c := c) (by simp_all [Lexeme.isSpace]))
  simp [h] at hc

end Text

namespace LegacyTag

@[simp]
theorem has_empty : has "" = false :=
  rfl

-- A text which no attribute starts in, whatever stands behind it.
def Silent (s : String) : Prop :=
  ∀ t, has (s ++ t) = has t

theorem silent_of_not_mem (h : '#' ∉ s.toList) : Silent s := by
  intro t
  rw [has, has, String.toList_append, occursIn_append_of_not_mem h]

theorem startsAttribute_eq_false (hb : Text.isBlank c = false) (hc : c ≠ '[') :
    startsAttribute (c :: cs) = false := by
  simp [startsAttribute, after?, skipBlank, hb, hc.symm]

-- The hash in a raw word is followed by the start of a name.
theorem silent_word : Silent w.text := by
  intro t
  have hw := w.spelled
  have hn {cs : List Char} (hr : ∀ d ∈ cs, Text.isIdentContinue d) : '#' ∉ cs := fun h => by cases hr _ h
  rw [has, has, String.toList_append]
  generalize w.text.toList = cs at hw
  cases hw
  case plain hc hr =>
    have hc := Text.isIdentContinue_of_isIdentStart hc
    exact occursIn_append_of_not_mem (hn (by simpa [hc] using hr))
  case raw c rest hc hr _ =>
    have hs := Text.ne_of_isIdentStart (d := '[') hc rfl
    have hc := Text.isIdentContinue_of_isIdentStart hc
    have ho : occursIn (c :: rest ++ t.toList) = occursIn t.toList :=
      occursIn_append_of_not_mem (hn (by simpa [hc] using hr))
    simpa [occursIn, startsAttribute_eq_false (Text.isBlank_eq_false hc) hs] using ho

-- Whether there is a list or a value at the head of a text.
def startsRequest (cs : List Char) : Bool :=
  (skipBlank cs).head?.any fun c => c = '(' || c = '='

-- Whether the name is at the head of a text, with a list or a value behind it.
def startsName (cs : List Char) : Bool :=
  (after? name cs).any startsRequest

theorem startsAttribute_bracket : startsAttribute (' ' :: '[' :: cs) = startsName cs := by
  have ha : after? ['['] (' ' :: '[' :: cs) = some cs := rfl
  simp only [startsAttribute, ha, Option.bind_eq_bind, Option.bind_some]
  unfold startsName startsRequest
  cases after? name cs <;> rfl

theorem name_eq : name = 'c' :: "ollgen".toList := by
  decide

theorem startsName_eq_false (hb : Text.isBlank c = false) (hc : c ≠ 'c') : startsName (c :: cs) = false := by
  simp [startsName, after?, skipBlank, hb, name_eq, hc.symm]

theorem startsRequest_eq_false (hc : Text.isIdentContinue c) : startsRequest (c :: cs) = false := by
  have hl : c ≠ '(' := Text.ne_of_isIdentContinue hc rfl
  have he : c ≠ '=' := Text.ne_of_isIdentContinue hc rfl
  simp [startsRequest, skipBlank, Text.isBlank_eq_false hc, hl, he]

theorem isIdentContinue_of_mem_name : c ∈ name → Text.isIdentContinue c := by
  have hn : name.all Text.isIdentContinue := by decide
  exact List.all_eq_true.mp hn c

-- A word that goes on behind the name goes on with a letter or the like.
theorem isIdentContinue_of_word (h : w.text.toList = name ++ c :: cs) : Text.isIdentContinue c := by
  have hw := w.spelled
  rw [h] at hw
  generalize ht : name ++ c :: cs = t at hw
  cases hw
  case plain hr =>
    rw [name_eq] at ht
    cases ht
    exact hr c (by simp)
  case raw => simp [name_eq] at ht

-- The name is found at the head of a word only if it is the word, or if the word goes on behind it.
theorem name_of_word (hc : Text.isIdentContinue c = false)
    (h : after? name (w.text.toList ++ c :: cs) = some rest) :
    (w.text.toList = name ∧ rest = c :: cs) ∨ ∃ d tail, rest = d :: tail ∧ Text.isIdentContinue d := by
  obtain ⟨blanks, hb, ha⟩ := (after?_eq_some_iff (by decide)).mp h
  obtain ⟨first, _, ht, hf⟩ := w.spelled.start
  cases blanks
  case cons =>
    simp only [ht, List.cons_append, List.cons.injEq] at ha
    have hs := Text.isBlank_eq_false (Text.isIdentContinue_of_isIdentStart hf)
    simp [ha.left, hb _ List.mem_cons_self] at hs
  case nil =>
    rw [List.nil_append] at ha
    rcases List.append_eq_append_iff.mp ha with ⟨tail, hn, he⟩ | ⟨tail, hw, rfl⟩
    · cases tail
      case nil  => exact .inl ⟨by simpa using hn.symm, he.symm⟩
      case cons =>
        cases he
        have hm := isIdentContinue_of_mem_name (c := c) (by simp [hn])
        cases hc.symm.trans hm
    · cases tail
      case nil  => exact .inl ⟨by simpa using hw, rfl⟩
      case cons => exact .inr ⟨_, _, rfl, isIdentContinue_of_word hw⟩

theorem startsName_word (hc : Text.isIdentContinue c = false) :
    startsName (w.text.toList ++ c :: cs) = (w.text = "collgen" && startsRequest (c :: cs)) := by
  by_cases hw : w.text = "collgen"
  case pos =>
    have ha : after? name (w.text.toList ++ c :: cs) = some (c :: cs) :=
      (after?_eq_some_iff (by decide)).mpr ⟨[], by simp [Blank], by rw [hw]; rfl⟩
    rw [startsName, ha, Option.any_some, decide_eq_true hw, Bool.true_and]
  case neg =>
    rw [startsName, decide_eq_false hw, Bool.false_and, Option.any_eq_false]
    intro rest h
    rcases name_of_word hc h with ⟨hn, -⟩ | ⟨d, tail, rfl, hd⟩
    · exact absurd (String.toList_inj.mp hn) hw
    · simp [startsRequest_eq_false hd]

theorem has_hash : has ("#" ++ s) = (startsAttribute s.toList || has s) := by
  simp [has, occursIn]

theorem has_closing {d : Delimiter} : has (s ++ d.right ++ t) = (has s || has t) := by
  simp only [has, String.toList_append, List.append_assoc]
  cases d <;> exact occursIn_cut ⟨by decide, by decide⟩

theorem has_append_gap (h : g ∈ ["", " "]) : has (s ++ g) = has s := by
  rcases List.mem_pair.mp h with rfl | rfl
  · rw [String.append_empty]
  · rw [has, has, String.toList_append]
    exact occursIn_concat_blank (by decide)

-- No attribute starts in one of some texts and goes on in the next one if each ends with a bracket.
theorem has_intercalate (h : ∀ s ∈ texts, ∃ front, s = front ++ Delimiter.bracket.right) :
    has (" ".intercalate texts) = texts.any has := by
  induction texts
  case nil => rfl
  case cons s texts ih =>
    have ih := ih fun s hs => h s (List.mem_cons_of_mem _ hs)
    obtain ⟨front, rfl⟩ := h s List.mem_cons_self
    have hs : Silent " " := silent_of_not_mem (by decide)
    have he : has (front ++ Delimiter.bracket.right) = has front := by
      have hc := has_closing (s := front) (d := .bracket) (t := "")
      rwa [String.append_empty, has_empty, Bool.or_false] at hc
    cases texts
    case nil => simp
    case cons t texts =>
      rw [String.intercalate_cons_cons, String.append_assoc, has_closing, hs, ih]
      simp [he]

end LegacyTag

namespace Token

open LegacyTag

variable {t u : Token} {ts us : List Token} {d : Delimiter}

theorem gap_mem : gap t u ∈ ["", " "] := by
  unfold gap
  split <;> simp

theorem silent_gap (h : g ∈ ["", " "]) : Silent g := by
  rcases List.mem_pair.mp h with rfl | rfl <;> exact silent_of_not_mem (by decide)

-- Between the texts of two tokens, and of two sequences of them, there is a space or nothing.

theorem render_cons (t : Token) (ts : List Token) :
    ∃ g ∈ ["", " "], render (t :: ts) = t.text ++ g ++ render ts := by
  cases ts
  case nil  => exact ⟨"", by simp, by simp [render]⟩
  case cons => exact ⟨_, gap_mem, rfl⟩

theorem render_append (ts us : List Token) :
    ∃ g ∈ ["", " "], render (ts ++ us) = render ts ++ g ++ render us := by
  induction ts
  case nil => exact ⟨"", by simp, by simp [render]⟩
  case cons t ts ih =>
    cases ts
    case nil => exact render_cons t us
    case cons =>
      obtain ⟨g, hg, h⟩ := ih
      exact ⟨g, hg, by simp_all [render, String.append_assoc]⟩

theorem has_render_cons (h : Silent t.text) : has (render (t :: ts)) = has (render ts) := by
  obtain ⟨g, hg, hr⟩ := render_cons t ts
  rw [hr, String.append_assoc, h, silent_gap hg]

theorem has_render_append (h : ∀ t ∈ ts, Silent t.text) : has (render (ts ++ us)) = has (render us) := by
  induction ts
  case nil          => rfl
  case cons t ts ih => rw [List.cons_append, has_render_cons (h t List.mem_cons_self), ih (by simp_all)]

theorem has_render_closing :
    has (render (ts ++ closing d :: us)) = (has (render ts) || has (render us)) := by
  obtain ⟨g, hg, h⟩ := render_append ts (closing d :: us)
  obtain ⟨g', hg', h'⟩ := render_cons (closing d) us
  have hs : render ts ++ g ++ (d.right ++ g' ++ render us) = render ts ++ g ++ d.right ++ (g' ++ render us) := by
    simp only [String.append_assoc]
  rw [h, h', text, hs, has_closing, has_append_gap hg, silent_gap hg']

theorem startsName_sign (ht : t.text.toList = [c]) (hb : Text.isBlank c = false)
    (hc : Text.isIdentContinue c = false) : startsName (render (t :: ts)).toList = false := by
  have hn : c ≠ 'c' := (Text.ne_of_isIdentContinue rfl hc).symm
  obtain ⟨_, -, h⟩ := render_cons t ts
  rw [h, String.append_assoc, String.toList_append, ht]
  exact startsName_eq_false hb hn

theorem startsName_ident (hu : u.text.toList = [c]) (hb : Text.isBlank c = false)
    (hc : Text.isIdentContinue c = false) :
    startsName (render (ident w :: u :: ts)).toList = (w.text = "collgen" && (c = '(' || c = '=')) := by
  obtain ⟨g, hg, h⟩ := render_cons (ident w) (u :: ts)
  obtain ⟨g', -, h'⟩ := render_cons u ts
  have hs : Text.isBlank ' ' := rfl
  rw [h, h', text]
  rcases List.mem_pair.mp hg with rfl | rfl
  · have ht : (w.text ++ "" ++ (u.text ++ g' ++ render ts)).toList =
        w.text.toList ++ c :: (g' ++ render ts).toList := by simp [hu]
    rw [ht, startsName_word hc]
    simp [startsRequest, skipBlank, hb]
  · have ht : (w.text ++ " " ++ (u.text ++ g' ++ render ts)).toList =
        w.text.toList ++ ' ' :: c :: (g' ++ render ts).toList := by simp [hu]
    rw [ht, startsName_word rfl]
    simp [startsRequest, skipBlank, hb, hs]

end Token

end CollectionPlan
