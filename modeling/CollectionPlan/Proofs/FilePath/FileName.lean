import CollectionPlan.Proofs.FilePath.Components

namespace CollectionPlan.FilePath

variable {dir : FilePath} {name ext : String} {stem rest : List Char}

-- A name in a directory.

theorem splitAt_append_name (h : '/' ∉ name.toList) (cs : List Char) :
    Text.splitAt (· = '/') (cs ++ '/' :: name.toList) = Text.splitAt (· = '/') cs ++ [name.toList] := by
  have hn : ∀ c ∈ name.toList, decide (c = '/') = false := by simpa using Text.ne_of_not_mem h
  rw [Text.splitAt_eq, Text.splitAt_eq, List.splitOnP_append_cons _ _ (by decide),
    List.splitOnP_eq_singleton hn]

-- Whatever the directory is, the name is the last step.
theorem exists_steps_join (dir : FilePath) (h : '/' ∉ name.toList) :
    ∃ front, (dir.join name).steps = front ++ [name.toList] := by
  unfold join steps
  split
  case isFalse =>
    refine ⟨Text.splitAt (· = '/') dir.toList, ?_⟩
    simpa [List.append_assoc] using splitAt_append_name h dir.toList
  case isTrue hd =>
    rw [String.toList_append]
    rcases Bool.or_eq_true_iff.mp hd with hd | hd
    · have hn := splitAt_append_name h []
      simp only [Text.splitAt, List.nil_append, decide_true, if_true, List.cons_append] at hn
      exact ⟨[], by simpa [String.isEmpty_iff.mp hd] using hn⟩
    · obtain ⟨front, hf⟩ := List.getLast?_eq_some_iff.mp (of_decide_eq_true hd)
      exact ⟨Text.splitAt (· = '/') front, by rw [hf, List.append_assoc]; exact splitAt_append_name h _⟩

theorem fileName?_join (h : IsName name) : (dir.join name).fileName? = some name := by
  have ⟨front, hs⟩ := exists_steps_join dir h.no_slash
  have hc : component? name.toList = some (.name name) := component?_text (.name h)
  have hn : (dir.join name).steps.filterMap component? = front.filterMap component? ++ [.name name] := by
    rw [hs, List.filterMap_append, List.filterMap_cons_some hc, List.filterMap_nil]
  have hl : (dir.join name).components.getLast? = some (.name name) := by
    unfold components
    rw [hn]
    split
    · rw [←List.cons_append, List.getLast?_concat]
    · split
      · rw [←List.cons_append, List.getLast?_concat]
      · rw [List.getLast?_concat]
  rw [fileName?, hl]

-- Extensions.

theorem splitDot_append (h : '.' ∉ rest) : splitDot (stem ++ '.' :: rest) =
    if stem = [] then ('.' :: rest, none) else (stem, some rest) := by
  have hr : (stem ++ '.' :: rest).reverse = rest.reverse ++ '.' :: stem.reverse := by simp
  have hn := Text.ne_of_not_mem (List.mem_reverse.not.mpr h)
  rw [splitDot, hr, List.takeWhile_append_of_pos hn, List.dropWhile_append_of_pos hn]
  cases stem <;> simp

theorem splitDot_of_not_mem (h : '.' ∉ stem) : splitDot stem = (stem, none) := by
  have hn := Text.ne_of_not_mem (List.mem_reverse.not.mpr h)
  have hd : stem.reverse.dropWhile (· ≠ '.') = [] := by
    rw [←List.append_nil stem.reverse, List.dropWhile_append_of_pos hn, List.dropWhile_nil]
  rw [splitDot, hd]
  rfl

theorem splitDot_eq_some_iff {cs : List Char} :
    (splitDot cs).2 = some rest ↔ ∃ stem, stem ≠ [] ∧ cs = stem ++ '.' :: rest ∧ '.' ∉ rest := by
  constructor
  case mp =>
    intro h
    by_cases hm : '.' ∈ cs
    case neg => simp [splitDot_of_not_mem hm] at h
    case pos =>
      obtain ⟨stem, back, rfl, hb⟩ := Text.exists_last hm
      rw [splitDot_append hb] at h
      split at h
      case isTrue => cases h
      case isFalse hs =>
        cases h
        exact ⟨stem, hs, rfl, hb⟩
  case mpr =>
    rintro ⟨stem, hs, rfl, hr⟩
    rw [splitDot_append hr, if_neg hs]

-- The extension of a file is what is behind the last dot of its name, if something is in front of this dot.
theorem extension?_join_eq_some_iff (h : IsName name) : (dir.join name).extension? = some ext ↔
    ∃ stem, stem ≠ "" ∧ name = stem ++ "." ++ ext ∧ '.' ∉ ext.toList := by
  have he : (dir.join name).extension? = (splitDot name.toList).2.map String.ofList := by
    rw [extension?, fileName?_join h]
    cases h : (splitDot name.toList).2 <;> simp [h]
  simp only [he, Option.map_eq_some_iff, splitDot_eq_some_iff]
  constructor
  case mp =>
    rintro ⟨rest, ⟨stem, hs, hn, hr⟩, rfl⟩
    refine ⟨String.ofList stem, by simpa using hs, ?_, by simpa using hr⟩
    rw [←String.toList_inj, hn]
    simp
  case mpr =>
    rintro ⟨stem, hs, rfl, hr⟩
    exact ⟨ext.toList, ⟨stem.toList, by simpa using hs, by simp, hr⟩, String.ofList_toList⟩

end CollectionPlan.FilePath
