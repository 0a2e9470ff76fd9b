import CollectionPlan.Text.Blank
import CollectionPlan.Text.Line

namespace CollectionPlan.Text

variable {cut : Char → Bool} {cs ds word line : List Char} {c : Char}

-- Cutting a text is splitting a list.
theorem splitAt_eq : splitAt cut cs = cs.splitOnP cut := by
  induction cs
  case nil => rfl
  case cons c cs ih =>
    have ⟨piece, pieces, h⟩ := List.exists_cons_of_ne_nil (List.splitOnP_ne_nil cut cs)
    simp only [splitAt, ih, List.splitOnP_cons_eq_if_modifyHead, h, List.modifyHead_cons]

-- No piece of a text holds a character that cuts.
theorem not_cut_of_mem_splitAt {piece : List Char} (h : piece ∈ splitAt cut cs) :
    ∀ c ∈ piece, cut c = false := by
  induction cs generalizing piece
  case nil => simp_all [splitAt]
  case cons c cs ih =>
    obtain ⟨first, pieces, hs⟩ := List.exists_cons_of_ne_nil (@splitAt_ne_nil cut cs)
    rw [splitAt, hs] at h
    rw [hs] at ih
    split at h
    case isTrue =>
      cases h
      case head   => simp
      case tail h => exact ih h
    case isFalse hc =>
      cases h
      case head   => exact List.forall_mem_cons.mpr ⟨by simpa using hc, ih (List.mem_cons_self ..)⟩
      case tail h => exact ih (List.mem_cons_of_mem _ h)

-- Cutting at a character undoes joining by it, and the other way round.

theorem splitAt_eq_splitOn : splitAt (· = c) cs = cs.splitOn c := by
  rw [splitAt_eq, List.splitOn]
  rfl

theorem splitAt_intercalate {texts : List (List Char)} (hn : texts ≠ []) (h : ∀ text ∈ texts, c ∉ text) :
    splitAt (· = c) ([c].intercalate texts) = texts := by
  rw [splitAt_eq_splitOn]
  exact List.splitOn_intercalate c h hn

theorem intercalate_splitAt : [c].intercalate (splitAt (· = c) cs) = cs := by
  rw [splitAt_eq_splitOn]
  exact List.intercalate_splitOn c

-- Characters that stand in a text.

theorem ne_of_not_mem (h : c ∉ cs) : ∀ d ∈ cs, decide (d ≠ c) = true := by
  intro d hd
  simp only [ne_eq, decide_not, Bool.not_eq_true', decide_eq_false_iff_not]
  rintro rfl
  exact h hd

theorem exists_last (h : c ∈ cs) : ∃ front back, cs = front ++ c :: back ∧ c ∉ back := by
  have ⟨back, front, he, hb⟩ := List.eq_append_cons_of_mem (List.mem_reverse.mpr h)
  refine ⟨front.reverse, back.reverse, ?_, by simpa using hb⟩
  simpa using congrArg List.reverse he

theorem mem_of_mem_intercalate {sep : List Char} {texts : List (List Char)}
    (h : c ∈ sep.intercalate texts) : c ∈ sep ∨ ∃ text ∈ texts, c ∈ text := by
  induction texts
  case nil => cases h
  case cons text texts ih =>
    cases texts
    case nil => exact .inr ⟨text, List.mem_cons_self .., by simpa using h⟩
    case cons =>
      simp only [List.intercalate_cons_cons, List.mem_append] at h
      rcases h with (h | h) | h
      · exact .inr ⟨text, List.mem_cons_self .., h⟩
      · exact .inl h
      · rcases ih h with h | ⟨other, ho, hc⟩
        · exact .inl h
        · exact .inr ⟨other, List.mem_cons_of_mem _ ho, hc⟩

theorem mem_of_mem_toList_intercalate {sep : String} {texts : List String}
    (h : c ∈ (sep.intercalate texts).toList) : c ∈ sep.toList ∨ ∃ text ∈ texts, c ∈ text.toList := by
  rw [String.toList_intercalate] at h
  refine (mem_of_mem_intercalate h).imp id fun ⟨_, hm, hc⟩ => ?_
  obtain ⟨text, ht, rfl⟩ := List.mem_map.mp hm
  exact ⟨text, ht, hc⟩

-- Words.

theorem words_nil : words [] = [] :=
  rfl

-- A text falls apart at a blank. All else about words follows from this.
theorem words_append_cons (h : isBlank c) : words (cs ++ c :: ds) = words cs ++ words ds := by
  simp only [words, splitAt_eq, List.splitOnP_append_cons _ _ h, List.filter_append]

theorem words_cons (h : isBlank c) : words (c :: cs) = words cs := by
  rw [←List.nil_append (c :: cs), words_append_cons h, words_nil, List.nil_append]

theorem words_append_blank (h : isBlank c) : words (cs ++ [c]) = words cs := by
  rw [words_append_cons h, words_nil, List.append_nil]

theorem words_blanks_append (h : ∀ c ∈ cs, isBlank c) : words (cs ++ ds) = words ds := by
  induction cs
  case nil => rfl
  case cons c cs ih =>
    have ⟨hc, h⟩ := List.forall_mem_cons.mp h
    rw [List.cons_append, words_cons hc, ih h]

-- Between two parts of a text any number of blanks is as good as one.
theorem words_append_blanks_append {gap : List Char} (hn : gap ≠ []) (h : ∀ c ∈ gap, isBlank c) :
    words (cs ++ gap ++ ds) = words cs ++ words ds := by
  obtain ⟨c, gap, rfl⟩ := List.exists_cons_of_ne_nil hn
  have ⟨hc, h⟩ := List.forall_mem_cons.mp h
  rw [List.append_assoc, List.cons_append, words_append_cons hc, words_blanks_append h]

theorem words_word (hn : word ≠ []) (h : ∀ c ∈ word, isBlank c = false) : words word = [word] := by
  simp [words, splitAt_eq, List.splitOnP_eq_singleton h, hn]

-- Lines.

namespace lines

variable {before : List Char}

-- What was read of a line stays its start.
theorem go_append_cons :
    go before (cs ++ '\n' :: ds) = go before (cs ++ ['\n']) ++ go [] ds := by
  induction cs generalizing before
  case nil => simp [go]
  case cons c cs ih =>
    simp only [List.cons_append, go]
    split
    · rw [ih, List.cons_append]
    · exact ih

theorem go_of_not_mem (h : '\n' ∉ cs) (hn : before.reverse ++ cs ≠ []) :
    go before cs = [before.reverse ++ cs] := by
  induction cs generalizing before
  case nil => simp_all [go]
  case cons c cs ih =>
    simp only [List.mem_cons, not_or] at h
    rw [go, if_neg (Ne.symm h.left), ih h.right (by simp)]
    simp

theorem not_mem_of_mem_go (hb : '\n' ∉ before) (h : line ∈ go before cs) : '\n' ∉ line := by
  have hr (line : List Char) (h : '\n' ∉ line) : '\n' ∉ dropReturn line := by
    unfold dropReturn
    split
    · exact fun hm => h (List.dropLast_subset _ hm)
    · exact h
  induction cs generalizing before
  case nil =>
    simp only [go] at h
    split at h <;> simp_all
  case cons c cs ih =>
    simp only [go] at h
    split at h
    case isTrue =>
      cases h
      case head   => exact hr _ (by simpa using hb)
      case tail h => exact ih List.not_mem_nil h
    case isFalse hc => exact ih (by simp [hb, Ne.symm hc]) h

end lines

-- A line feed ends a line, whatever stands behind it.
theorem lines_append_cons : lines (cs ++ '\n' :: ds) = lines (cs ++ ['\n']) ++ lines ds :=
  lines.go_append_cons

theorem lines_line (hn : line ≠ []) (h : '\n' ∉ line) : lines line = [line] :=
  lines.go_of_not_mem h hn

theorem not_mem_of_mem_lines (h : line ∈ lines cs) : '\n' ∉ line :=
  lines.not_mem_of_mem_go List.not_mem_nil h

-- Ending the last line changes nothing but its end: a carriage return there is dropped, and a line
-- without characters is a line now.
theorem findSome?_lines_ended {f : List Char → Option α} (hr : ∀ line, f (dropReturn line) = f line)
    (he : f [] = none) : (lines (cs ++ ['\n'])).findSome? f = (lines cs).findSome? f := by
  suffices ∀ before, (lines.go before (cs ++ ['\n'])).findSome? f = (lines.go before cs).findSome? f from
    this []
  intro before
  induction cs generalizing before
  case nil =>
    cases before
    case nil  => simp [lines.go, hr, he]
    case cons => simp [lines.go, hr]
  case cons c cs ih =>
    simp only [List.cons_append, lines.go]
    split
    · rw [List.findSome?_cons, List.findSome?_cons, ih]
    · exact ih _

end CollectionPlan.Text
