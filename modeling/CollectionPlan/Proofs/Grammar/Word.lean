import CollectionPlan.Token.Scan
import Mathlib.Data.List.TakeWhile

namespace CollectionPlan

namespace Text

variable {c d : Char}

-- The code points of blanks and of direction marks.
def spaces : List Nat :=
  [0x09, 0x0a, 0x0b, 0x0c, 0x0d, 0x20, 0x85, 0xa0, 0x1680, 0x2000, 0x2001, 0x2002, 0x2003, 0x2004, 0x2005,
    0x2006, 0x2007, 0x2008, 0x2009, 0x200a, 0x200e, 0x200f, 0x2028, 0x2029, 0x202f, 0x205f, 0x3000]

theorem toNat_mem_spaces (h : Lexeme.isSpace c) : c.toNat ∈ spaces := by
  have hl : c = '\u200e' ↔ c.toNat = 0x200e := Char.toNat_inj.symm
  have hr : c = '\u200f' ↔ c.toNat = 0x200f := Char.toNat_inj.symm
  simp only [Lexeme.isSpace, isBlank, Bool.or_eq_true, Bool.and_eq_true, decide_eq_true_eq, beq_iff_eq, hl,
    hr] at h
  simp only [spaces, List.mem_cons, List.not_mem_nil, or_false]
  omega

theorem isSpace_eq_false (h : isIdentStart c) : Lexeme.isSpace c = false := by
  have hd : ∀ n ∈ spaces, isIdentStart (Char.ofNat n) = false := by decide +kernel
  by_contra hs
  have hc := hd _ (toNat_mem_spaces (by simpa using hs))
  simp [h] at hc

theorem isAsciiDigit_eq_false (h : isIdentStart c) : isAsciiDigit c = false := by
  have hd : ∀ n < 128, isIdentStart (Char.ofNat n) → isAsciiDigit (Char.ofNat n) = false := by decide +kernel
  by_contra hc
  have hn : c.toNat < 128 := by
    simp only [Bool.not_eq_false, isAsciiDigit, Bool.and_eq_true, decide_eq_true_eq] at hc
    exact Nat.lt_of_le_of_lt (UInt32.le_iff_toNat_le.mp hc.right) (by decide)
  have hd := hd c.toNat hn (by simpa using h)
  simp_all

-- What starts an identifier starts nothing else.
theorem ne_of_isIdentStart (h : isIdentStart c) (hd : isIdentStart d = false) : c ≠ d := by
  rintro rfl
  exact Bool.false_ne_true (hd.symm.trans h)

end Text

namespace Lexeme

-- The characters of a word, plain or raw.
inductive Spelled : List Char → Prop
  | plain (hc : Text.isIdentStart c) (hr : ∀ d ∈ cs, Text.isIdentContinue d) : Spelled (c :: cs)
  | raw (hc : Text.isIdentStart c) (hr : ∀ d ∈ cs, Text.isIdentContinue d)
    (hn : String.ofList (c :: cs) ∉ neverRaw) : Spelled ('r' :: '#' :: c :: cs)

variable {c d : Char} {cs : List Char}

theorem isName_cons : isName (c :: cs) ↔ Text.isIdentStart c ∧ ∀ d ∈ cs, Text.isIdentContinue d := by
  simp [isName]

theorem spelled_of_isWord (h : isWord cs) : Spelled cs := by
  unfold isWord at h
  split at h
  case h_1 rest =>
    simp only [Bool.and_eq_true, Bool.not_eq_true', List.contains_eq_mem, decide_eq_false_iff_not] at h
    cases rest
    case nil  => simp [isName] at h
    case cons => exact .raw (isName_cons.mp h.left).left (isName_cons.mp h.left).right h.right
  case h_2 =>
    cases cs
    case nil  => simp [isName] at h
    case cons => exact .plain (isName_cons.mp h).left (isName_cons.mp h).right

theorem name?_of_name (hc : Text.isIdentStart c) (hr : ∀ d ∈ cs, Text.isIdentContinue d) :
    name? (c :: cs) = some (c :: cs).length := by
  simp [name?, hc, List.takeWhile_eq_self_iff.mpr hr, Nat.add_comm]

namespace Spelled

theorem start (h : Spelled cs) : ∃ c rest, cs = c :: rest ∧ Text.isIdentStart c := by
  cases h
  case plain hc _ => exact ⟨_, _, rfl, hc⟩
  case raw        => exact ⟨_, _, rfl, by decide⟩

theorem not_mem (h : Spelled cs) (hd : Text.isIdentContinue d = false) (hs : d ≠ '#') : d ∉ cs := by
  have ne {c : Char} (hc : Text.isIdentContinue c) : d ≠ c := by
    rintro rfl
    exact Bool.false_ne_true (hd.symm.trans hc)
  intro hm
  cases h
  case plain hc hr =>
    cases List.mem_cons.mp hm
    case inl h => exact ne (Text.isIdentContinue_of_isIdentStart hc) h
    case inr h => exact ne (hr d h) rfl
  case raw hc hr _ =>
    simp only [List.mem_cons] at hm
    rcases hm with h | h | h | h
    · exact ne (by decide) h
    · exact hs h
    · exact ne (Text.isIdentContinue_of_isIdentStart hc) h
    · exact ne (hr d h) rfl

theorem anyIdent?_eq (h : Spelled cs) : anyIdent? cs = some cs.length := by
  cases h
  case plain hc hr =>
    unfold anyIdent?
    split
    case h_1 =>
      have hh := hr '#' (by simp_all)
      cases hh
    case h_2 => exact name?_of_name hc hr
  case raw hc hr hn =>
    simp only [anyIdent?, name?_of_name hc hr]
    simpa using hn

-- Behind its first character a literal has one that no plain word has, and a raw word goes on with a name
-- where a raw text goes on with a quote or with another hash.
theorem ident?_eq (h : Spelled cs) : ident? cs = some cs.length := by
  have hl : literalStarts.any (·.isPrefixOf cs) = false := by
    rw [List.any_eq_false]
    intro l hm hp
    cases h
    case plain hr =>
      have ht : literalStarts.all (·.tail.any (!Text.isIdentContinue ·)) := by decide
      have ⟨d, hd, hn⟩ := List.any_eq_true.mp (List.all_eq_true.mp ht l hm)
      have hs : l.tail.Sublist _ := (List.isPrefixOf_iff_prefix.mp hp).sublist.tail
      simp [hr d (hs.mem hd)] at hn
    case raw c _ hc _ _ =>
      have hq : '"' ≠ c := (Text.ne_of_isIdentStart hc rfl).symm
      have hh : '#' ≠ c := (Text.ne_of_isIdentStart hc rfl).symm
      simp only [literalStarts, List.mem_cons, List.not_mem_nil, or_false] at hm
      rcases hm with rfl | rfl | rfl | rfl | rfl | rfl | rfl | rfl | rfl | rfl <;> simp_all
  simp [ident?, hl, h.anyIdent?_eq]

end Spelled

theorem raw?_eq_none (h : '"' ∉ cs) : raw? alphabet start cs = none := by
  simp only [raw?]
  split
  case h_1 hd => exact absurd (List.mem_of_mem_drop (hd ▸ List.mem_cons_self ..)) h
  case h_2    => rfl

-- Each form of text has a quote in it.
theorem text?_eq_none (hd : '"' ∉ cs) (hs : '\'' ∉ cs) : text? cs = none := by
  unfold text?
  split <;> simp_all [raw?_eq_none]

theorem hexValue_ge (hd : Text.isAsciiDigit c = false) (hx : Text.isHexDigit c) : 10 ≤ Text.hexValue c := by
  obtain ⟨n, hn⟩ := Option.isSome_iff_exists.mp hx
  rw [Text.hexValue, hn, Option.getD_some]
  simp only [Text.digit?, hd, Bool.false_eq_true, if_false, Option.ite_none_right_eq_some,
    Option.some.injEq] at hn
  split at hn
  case isTrue  => omega
  case isFalse => split at hn <;> omega

theorem digits?_eq_none (hc : Text.isIdentStart c) : digits? 10 0 true (c :: cs) = none := by
  have hd := Text.isAsciiDigit_eq_false hc
  have hx : (Text.isHexDigit c && decide (Text.hexValue c < 10)) = false := by
    by_contra h
    simp only [Bool.not_eq_false, Bool.and_eq_true, decide_eq_true_eq] at h
    exact absurd (hexValue_ge hd h.left) (by omega)
  simp [digits?, hd, hx]

theorem number?_eq_none (hc : Text.isIdentStart c) : number? (c :: cs) = none := by
  have hd := Text.isAsciiDigit_eq_false hc
  have h0 : c ≠ '0' := Text.ne_of_isIdentStart hc rfl
  have hi : integer? (c :: cs) = none := by
    unfold integer?
    split
    case h_4 => exact digits?_eq_none hc
    all_goals simp_all
  simp [number?, decimal?, hd, hi]

end Lexeme

namespace Word

variable {w : Word}

theorem spelled : Lexeme.Spelled w.text.toList :=
  Lexeme.spelled_of_isWord w.isWord

theorem read?_text : read? w.text.toList = some (w, w.text.toList.length) := by
  have hi := w.spelled.ident?_eq
  unfold read?
  split
  case h_1 hn =>
    cases hn.symm.trans hi
    simp
  case h_2 hn => cases hn.symm.trans hi

end Word

namespace Token

variable {w : Word} {c : Char} {cs : List Char}

theorem punct?_eq_none (hc : Text.isIdentStart c) : punct? (c :: cs) = none := by
  have hp : Lexeme.punctuation.all (!Text.isIdentStart ·) := by decide
  have hn : c ∉ Lexeme.punctuation := by
    intro hm
    simpa [hc] using List.all_eq_true.mp hp c hm
  have hs : c ≠ '/' := Text.ne_of_isIdentStart hc rfl
  have hq : c ≠ '\'' := Text.ne_of_isIdentStart hc rfl
  unfold punct?
  split <;> simp_all [Lexeme.isPunct]

theorem leaf?_word : leaf? w.text.toList = some (.ident w, w.text.toList.length) := by
  obtain ⟨c, rest, ht, hc⟩ := w.spelled.start
  have hd : '"' ∉ w.text.toList := w.spelled.not_mem rfl (by decide)
  have hs : '\'' ∉ w.text.toList := w.spelled.not_mem rfl (by decide)
  have hl : Lexeme.literal? w.text.toList = none := by
    rw [Lexeme.literal?, Lexeme.text?_eq_none hd hs, ht, Lexeme.number?_eq_none hc]
    rfl
  have hp : punct? w.text.toList = none := by rw [ht, punct?_eq_none hc]
  simp [leaf?, hl, hp, w.read?_text]

theorem step_word : step [] offset w.text.toList = .ok ([], [.ident w], w.text.toList.length) := by
  obtain ⟨c, rest, ht, hc⟩ := w.spelled.start
  have hs : c ≠ '/' := Text.ne_of_isIdentStart hc rfl
  have hd : DocComment.parse? w.text.toList = none := by
    rw [ht]
    unfold DocComment.parse?
    split <;> simp_all
  have ho : opening? c = none := by
    unfold opening?
    split <;> simp_all [Text.isIdentStart, Text.isAsciiLetter]
  have hl : closing? c = none := by
    unfold closing?
    split <;> simp_all [Text.isIdentStart, Text.isAsciiLetter]
  have hw : leaf? w.text.toList = some (.ident w, w.text.toList.length) := leaf?_word
  unfold step
  rw [hd]
  rw [ht] at hw ⊢
  simp [ho, hl, hw]

theorem skipped_word : skipped fuel 0 w.text.toList = 0 := by
  obtain ⟨c, rest, ht, hc⟩ := w.spelled.start
  have hs : c ≠ '/' := Text.ne_of_isIdentStart hc rfl
  have hn : comment? (c :: rest) = none := by
    unfold comment?
    split <;> simp_all
  rw [ht]
  cases fuel <;> simp [skipped, hn, Text.isSpace_eq_false hc]

theorem scanFrom_nil : scanFrom (fuel + 1) [] offset [] = .ok [] := by
  rw [scanFrom]
  simp
  rfl

-- The text of a word is read as the word and nothing else.
theorem scan_word : scan w.text.toList = .ok [⟨.ident w, 0⟩] := by
  obtain ⟨c, rest, ht, hc⟩ := w.spelled.start
  have hm : c ≠ byteOrderMark := Text.ne_of_isIdentStart hc (by decide +kernel)
  have hs : scan w.text.toList = scanFrom (w.text.toList.length + 1) [] 0 w.text.toList := by
    simp [scan, ht, hm]
  have hstep : step [] 0 w.text.toList = .ok ([], [.ident w], w.text.toList.length) := step_word
  rw [hs, scanFrom, skipped_word, List.drop_zero]
  rw [ht] at hstep ⊢
  simp only [Nat.add_zero, hstep, bind, Except.bind, List.length_cons, List.drop_succ_cons, List.drop_length,
    scanFrom_nil]
  rfl

end Token
end CollectionPlan
