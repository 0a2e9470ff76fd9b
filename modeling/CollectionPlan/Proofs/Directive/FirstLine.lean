import CollectionPlan.Directive
import CollectionPlan.Proofs.Text.Line

namespace CollectionPlan.Directive

variable {line : List Char} {c : Char} {doc name : String}

-- What a line says on its own.
def ofLine? (name : String) (line : List Char) : Option Directive :=
  if isDirectiveLine line then some (ofLine name line) else none

theorem ofDoc?_eq : ofDoc? doc name = (Text.lines doc.toList).findSome? (ofLine? name) := by
  unfold ofDoc?
  generalize Text.lines doc.toList = lines
  induction lines
  case nil => rfl
  case cons line lines ih =>
    cases h : isDirectiveLine line
    case false => simp [ofLine?, h, ih]
    case true  => simp [ofLine?, h]

theorem strip_append_blank (h : Text.isBlank c) :
    strip (line ++ [c]) = if (strip line).isEmpty then [] else strip line ++ [c] := by
  have hc : strip [c] = [] := by simp [strip, h]
  unfold strip at hc ⊢
  rw [List.dropWhile_append, hc]

-- No blank is part of the marker, so that one at the end of a line decides nothing.
theorem isDirectiveLine_append_blank (h : Text.isBlank c) :
    isDirectiveLine (line ++ [c]) = isDirectiveLine line := by
  unfold isDirectiveLine
  rw [strip_append_blank h]
  split
  case isTrue hs => rw [List.isEmpty_iff.mp hs]
  case isFalse =>
    have hm : marker ≠ strip line ++ [c] := by
      intro he
      have hc : c = 'n' := by simpa [marker] using (congrArg List.getLast? he).symm
      subst hc
      exact absurd h (by decide)
    rw [Bool.eq_iff_iff, List.isPrefixOf_iff_prefix, List.isPrefixOf_iff_prefix, List.prefix_concat_iff]
    exact or_iff_right hm

theorem ofLine_append_blank (h : Text.isBlank c) : ofLine name (line ++ [c]) = ofLine name line := by
  unfold ofLine
  rw [strip_append_blank h]
  split
  case isTrue hs => rw [List.isEmpty_iff.mp hs]
  case isFalse   => rw [Text.words_append_blank h]

theorem ofLine?_dropReturn : ofLine? name (Text.dropReturn line) = ofLine? name line := by
  unfold Text.dropReturn
  split
  case isFalse  => rfl
  case isTrue h =>
    obtain ⟨line, rfl⟩ := List.getLast?_eq_some_iff.mp h
    have hr : Text.isBlank '\r' := by decide
    rw [List.dropLast_concat, ofLine?, ofLine?, isDirectiveLine_append_blank hr, ofLine_append_blank hr]

-- A line feed between two texts keeps them apart, however the first one ends.
theorem ofDoc?_append (a b name : String) :
    ofDoc? (a ++ "\n" ++ b) name = (ofDoc? a name).or (ofDoc? b name) := by
  have ht : (a ++ "\n" ++ b).toList = a.toList ++ '\n' :: b.toList := by simp
  rw [ofDoc?_eq, ht, Text.lines_append_cons, List.findSome?_append,
    Text.findSome?_lines_ended (fun _ => ofLine?_dropReturn) rfl, ←ofDoc?_eq, ←ofDoc?_eq]

theorem ne_nil_of_isDirectiveLine (h : isDirectiveLine line = true) : line ≠ [] := by
  rintro rfl
  cases h

theorem ofDoc?_line (h : isDirectiveLine line = true) (hn : '\n' ∉ line) :
    ofDoc? (String.ofList line) name = some (ofLine name line) := by
  rw [ofDoc?_eq, String.toList_ofList, Text.lines_line (ne_nil_of_isDirectiveLine h) hn]
  simp [ofLine?, h]

theorem ofDoc?_eq_first : ofDoc? doc name =
    ((Text.lines doc.toList).find? isDirectiveLine).bind fun line => ofDoc? (String.ofList line) name := by
  cases h : (Text.lines doc.toList).find? isDirectiveLine
  case none      => simp [ofDoc?, h]
  case some line =>
    have hl := List.find?_some h
    have hn := Text.not_mem_of_mem_lines (List.mem_of_find?_eq_some h)
    rw [Option.bind_some, ofDoc?_line hl hn, ofDoc?, h, Option.map_some]

theorem isSome_ofDoc?_iff : (ofDoc? doc name).isSome ↔
    ∃ line ∈ Text.lines doc.toList, marker <+: strip line := by
  simp [ofDoc?, isDirectiveLine, List.isPrefixOf_iff_prefix]

-- A text asks for methods exactly if one of its lines starts with the marker, and the first such line says
-- for what, as if it stood alone.
theorem first_line_counts (a b name : String) :
    ofDoc? (a ++ "\n" ++ b) name = (ofDoc? a name).or (ofDoc? b name) ∧
    ∀ doc, ((ofDoc? doc name).isSome ↔ ∃ line ∈ Text.lines doc.toList, marker <+: strip line) ∧
      ofDoc? doc name = ((Text.lines doc.toList).find? isDirectiveLine).bind fun line =>
        ofDoc? (String.ofList line) name :=
  ⟨ofDoc?_append a b name, fun _ => ⟨isSome_ofDoc?_iff, ofDoc?_eq_first⟩⟩

end CollectionPlan.Directive
