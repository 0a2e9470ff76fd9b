import CollectionPlan.Directive

namespace CollectionPlan.Directive

-- Whether a line has the word that asks for pointers.
def isPointerLine (line : List Char) : Bool :=
  (Text.words (strip line)).contains ['*']

def tag? (d : Directive) : Tag.Key → Option Tag
  | .methods     => d.methods
  | .projections => d.projections

variable {d : Directive} {words : List (List Char)} {word line : List Char} {key : Tag.Key} {type : String}

theorem foldl_read : (words.foldl read d).name = d.name ∧
    (words.foldl read d).pointer = (d.pointer || words.contains ['*']) := by
  induction words generalizing d
  case nil => simp
  case cons word words ih =>
    have ⟨hn, hp⟩ := ih (d := d.read word)
    refine ⟨hn, ?_⟩
    rw [List.foldl_cons, hp, List.contains_cons, ←Bool.or_assoc, Bool.beq_comm]
    rfl

theorem name_ofLine : (ofLine type line).name = type :=
  foldl_read.left

theorem pointer_ofLine : (ofLine type line).pointer = isPointerLine line :=
  foldl_read.right

theorem tag?_read : (d.read word).tag? key = (Tag.ofToken? key word).or (d.tag? key) := by
  cases key <;> simp [read, tag?]

-- Of the tags of one name the last one counts, whatever stands between them.
theorem tag?_foldl_read : (words.foldl read d).tag? key =
    ((words.filterMap (Tag.ofToken? key)).getLast?).or (d.tag? key) := by
  induction words generalizing d
  case nil => rfl
  case cons word words ih =>
    rw [List.foldl_cons, ih, tag?_read]
    cases ht : Tag.ofToken? key word
    case none     => simp [ht]
    case some tag =>
      rw [List.filterMap_cons_some ht, List.getLast?_cons]
      cases (words.filterMap (Tag.ofToken? key)).getLast? <;> rfl

theorem tag?_ofLine : (ofLine type line).tag? key =
    ((Text.words (strip line)).filterMap (Tag.ofToken? key)).getLast? := by
  rw [ofLine, tag?_foldl_read]
  cases key <;> exact Option.or_none

end CollectionPlan.Directive
