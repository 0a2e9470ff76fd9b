import CollectionPlan.FileTree

namespace CollectionPlan.FileTree

variable {t : FileTree} {origin place dir dest : Place} {step : List Char} {steps : List (List Char)}
  {p : FilePath} {node : Node} {text : String}

-- Walking.

theorem walk_cons_eq_ok_iff : t.walk place (step :: steps) = .ok dest ↔
    t.node? place = some .directory ∧ (t.node? (next place step)).isSome ∧
      t.walk (next place step) steps = .ok dest := by
  rw [walk]
  cases t.node? place
  case none      => simp
  case some node => cases node <;> cases t.node? (next place step) <;> simp

theorem walk_append {front back : List (List Char)} :
    t.walk place (front ++ back) = t.walk place front >>= fun dir => t.walk dir back := by
  induction front generalizing place
  case nil => rfl
  case cons step front ih =>
    rw [List.cons_append, walk, walk]
    split
    case h_1 => exact ih
    all_goals rfl

-- A node at a place where no directory is stands in nobody's way.
theorem walk_put (hn : place ≠ []) (hd : t.node? place ≠ some .directory)
    (h : t.walk origin steps = .ok dest) : (t.put place node).walk origin steps = .ok dest := by
  induction steps generalizing origin
  case nil => exact h
  case cons step steps ih =>
    have ⟨ho, hs, h⟩ := walk_cons_eq_ok_iff.mp h
    refine walk_cons_eq_ok_iff.mpr ⟨?_, ?_, ih h⟩
    case refine_1 =>
      have hp : origin ≠ place := fun he => hd (he ▸ ho)
      rw [node?_put hn, if_neg hp, ho]
    case refine_2 =>
      rw [node?_put hn]
      split
      · rfl
      · exact hs

-- Writing.

-- A file can be written where there is one, or nothing yet.
def IsFree (t : FileTree) (place : Place) : Prop :=
  t.node? place = none ∨ ∃ content, t.node? place = some (.file content)

theorem next_name (h : isName step = true) : next place step = place ++ [String.ofList step] := by
  simp only [isName, Bool.and_eq_true, decide_eq_true_eq] at h
  rw [next, if_neg h.left, if_neg h.right]

-- The directory is found first, and it holds the file under the last name of the path.
structure Targets (t : FileTree) (p : FilePath) (dir : Place) (step : List Char) : Prop where
  steps_eq  : ∃ front, writtenSteps p = front ++ [step] ∧ t.walk (t.start p) front = .ok dir
  directory : t.node? dir = some .directory
  isName    : isName step = true
  no_slash  : p.endsWithSlash = false

theorem exists_targets (h : t.target p = .ok place) : ∃ dir step, t.Targets p dir step := by
  unfold target at h
  cases hw : (writtenSteps p).getLast?
  case none => simp [hw] at h
  case some step =>
    obtain ⟨front, hs⟩ := List.getLast?_eq_some_iff.mp hw
    simp only [hw] at h
    rw [hs, List.dropLast_concat] at h
    cases hd : t.walk (t.start p) front
    case error => simp [hd, bind, Except.bind] at h
    case ok dir =>
      simp only [hd, bind, Except.bind] at h
      split at h
      case h_1 hn =>
        split at h
        case isTrue => cases h
        case isFalse hk =>
          simp only [Bool.or_eq_true, Bool.not_eq_true', not_or, Bool.not_eq_true, Bool.not_eq_false] at hk
          exact ⟨dir, step, ⟨front, hs, hd⟩, hn, hk.left, hk.right⟩
      all_goals cases h

namespace Targets

variable (h : t.Targets p dir step)
include h

theorem target_eq : t.target p = match t.node? (dir ++ [String.ofList step]) with
    | some .directory      => .error .isDirectory
    | some (.locked error) => .error error
    | _                    => .ok (dir ++ [String.ofList step]) := by
  have ⟨front, hs, hd⟩ := h.steps_eq
  simp only [target, hs, List.getLast?_concat, List.dropLast_concat, hd, bind, Except.bind, h.directory,
    h.isName, h.no_slash, next_name h.isName]
  rfl

end Targets

theorem target_eq_ok_iff : t.target p = .ok place ↔
    ∃ dir step, t.Targets p dir step ∧ place = dir ++ [String.ofList step] ∧ t.IsFree place := by
  constructor
  case mp =>
    intro h
    have ⟨dir, step, ht⟩ := exists_targets h
    rw [ht.target_eq] at h
    refine ⟨dir, step, ht, ?_⟩
    unfold IsFree
    split at h
    case h_1 | h_2 => cases h
    case h_3 hd hl =>
      cases h
      refine ⟨rfl, ?_⟩
      cases hn : t.node? (dir ++ [String.ofList step])
      case none => exact .inl rfl
      case some node =>
        cases node
        case directory => exact absurd hn hd
        case locked    => exact absurd hn (hl _)
        case file      => exact .inr ⟨_, rfl⟩
  case mpr =>
    rintro ⟨dir, step, ht, rfl, hf⟩
    rw [ht.target_eq]
    rcases hf with hf | ⟨_, hf⟩ <;> rw [hf]

-- A tree that has a text at one place and is another tree everywhere else.
structure Writes (t : FileTree) (place : Place) (text : String) (t' : FileTree) : Prop where
  node?_eq      : ∀ other, t'.node? other =
    if other = place then some (.file text.toUTF8) else t.node? other
  workingDir_eq : t'.workingDir = t.workingDir

variable (h : t.target p = .ok place)
include h

theorem target_ne_nil : place ≠ [] := by
  have ⟨_, _, _, he, _⟩ := target_eq_ok_iff.mp h
  simp [he]

theorem target_ne_directory : t.node? place ≠ some .directory := by
  have ⟨_, _, _, _, hf⟩ := target_eq_ok_iff.mp h
  rcases hf with hf | ⟨_, hf⟩ <;> simp [hf]

-- A path to which a file was written leads to this file.
theorem locate_put_target : (t.put place node).locate p = .ok place := by
  have hn := target_ne_nil h
  have hf := target_ne_directory h
  obtain ⟨dir, step, ht, rfl, _⟩ := target_eq_ok_iff.mp h
  have ⟨front, hs, hd⟩ := ht.steps_eq
  have hp : p.isEmpty = false := by
    rw [Bool.eq_false_iff]
    intro hp
    have hw : writtenSteps "" = [] := by decide
    simp [String.isEmpty_iff.mp hp, hw] at hs
  have hl : stepsOf p = front ++ [step] := by simp [stepsOf, ht.no_slash, hs]
  have hw : (t.put (dir ++ [String.ofList step]) node).walk (t.start p) front = .ok dir := walk_put hn hf hd
  have hk : (t.put (dir ++ [String.ofList step]) node).walk dir [step] =
      .ok (dir ++ [String.ofList step]) := by
    rw [walk_cons_eq_ok_iff, next_name ht.isName]
    refine ⟨?_, ?_, rfl⟩
    case refine_1 => rw [node?_put hn, if_neg (by simp), ht.directory]
    case refine_2 => rw [node?_put hn, if_pos rfl, Option.isSome_some]
  have hs : (t.put (dir ++ [String.ofList step]) node).start p = t.start p := rfl
  rw [locate, hp, if_neg Bool.false_ne_true, hl, walk_append, hs, hw]
  exact hk

-- All of a text that was written to a path can be read from it.
theorem readText_put : (t.put place (.file text.toUTF8)).readText p = .ok text := by
  have hn : (t.put place (.file text.toUTF8)).node? place = some (.file text.toUTF8) := by
    rw [node?_put (target_ne_nil h), if_pos rfl]
  have ht : String.fromUTF8? text.toUTF8 = some text := dif_pos text.isValidUTF8
  simp only [readText, find, locate_put_target h, hn, Node.text, ht, bind, Except.bind, Option.elim_some]

theorem writes_put : t.Writes place text (t.put place (.file text.toUTF8)) where
  node?_eq _    := node?_put (target_ne_nil h)
  workingDir_eq := rfl

end CollectionPlan.FileTree
