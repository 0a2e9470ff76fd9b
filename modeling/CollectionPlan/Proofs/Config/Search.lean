import CollectionPlan.Config.Search
import CollectionPlan.Proofs.FilePath.Ancestors

namespace CollectionPlan

section FirstHit

variable {f f' : Nat → Option α}

theorem findSome?_range_eq_none_iff : (List.range n).findSome? f = none ↔ ∀ i < n, f i = none := by
  simp [List.findSome?_eq_none_iff]

theorem findSome?_range_eq_some_iff :
    (List.range n).findSome? f = some a ↔ ∃ i < n, f i = some a ∧ ∀ j < i, f j = none := by
  induction n
  case zero => simp
  case succ n ih =>
    have hl : [n].findSome? f = f n := by cases h : f n <;> simp [h]
    rw [List.range_succ, List.findSome?_append, hl, Option.or_eq_some_iff, ih, findSome?_range_eq_none_iff]
    constructor
    case mp =>
      rintro (⟨i, hi, h⟩ | ⟨hn, ha⟩)
      · exact ⟨i, Nat.lt_succ_of_lt hi, h⟩
      · exact ⟨n, Nat.lt_succ_self n, ha, hn⟩
    case mpr =>
      rintro ⟨i, hi, ha, hn⟩
      cases Nat.lt_succ_iff_lt_or_eq.mp hi
      case inl hi => exact .inl ⟨i, hi, ha, hn⟩
      case inr hi => exact .inr (hi ▸ ⟨hn, ha⟩)

-- What is behind the first hit has no influence.
theorem findSome?_range_congr (h : ∀ i < n, (∀ j < i, f j = none) → f' i = f i) :
    (List.range n).findSome? f' = (List.range n).findSome? f := by
  induction n
  case zero => rfl
  case succ n ih =>
    rw [List.range_succ, List.findSome?_append, List.findSome?_append,
      ih fun i hi => h i (Nat.lt_succ_of_lt hi)]
    cases hf : (List.range n).findSome? f
    case some a => rfl
    case none   => simp [h n (Nat.lt_succ_self n) (findSome?_range_eq_none_iff.mp hf)]

-- The front of a list is searched place by place.
theorem findSome?_take {xs : List β} {g : β → Option α} :
    (xs.take n).findSome? g = (List.range n).findSome? fun i => xs[i]?.bind g := by
  induction n
  case zero => rfl
  case succ n ih =>
    rw [List.take_add_one, List.findSome?_append, ih, List.range_succ, List.findSome?_append]
    congr 1
    cases h : xs[n]?
    case none   => simp [h]
    case some x => cases hg : g x <;> simp [h, hg]

end FirstHit

namespace Config

variable {t : FileTree} {start dir : FilePath} {node : Node} {depth steps : Nat}

-- The regular file with settings right inside of a directory, if there is one.
def fileIn? (t : FileTree) (dir : FilePath) : Option Node :=
  (t.find (dir.join fileName)).toOption.filter (·.isFile)

-- The same for the directory that is some steps above another one.
def fileAbove? (t : FileTree) (start : FilePath) (steps : Nat) : Option Node :=
  (start.ancestor? steps).bind (fileIn? t)

-- The nearest of these files.
structure Nearest (t : FileTree) (start : FilePath) (steps : Nat) (node : Node) : Prop where
  found : fileAbove? t start steps = some node
  first : ∀ i < steps, fileAbove? t start i = none

theorem isFile_join : t.isFile (dir.join fileName) = (fileIn? t dir).isSome := by
  unfold FileTree.isFile fileIn?
  cases t.find (dir.join fileName)
  case error   => rfl
  case ok node => cases h : node.isFile <;> simp [Except.toOption, h]

theorem readText_join (h : fileIn? t dir = some node) : t.readText (dir.join fileName) = node.text := by
  unfold fileIn? at h
  unfold FileTree.readText
  cases hf : t.find (dir.join fileName)
  case error   => simp [hf, Except.toOption] at h
  case ok node =>
    simp only [hf, Except.toOption, Option.filter_eq_some_iff, Option.some.injEq] at h
    rw [←h.left]
    rfl

-- The directories are searched from the start upwards, and the first file is read.
theorem find?_eq : find? t start depth =
    ((List.range depth).findSome? (fileAbove? t start)).bind fun node => node.text.toOption.bind parse? := by
  have hs : (List.range depth).findSome? (fileAbove? t start) =
      (start.ancestors.take depth).findSome? (fileIn? t) := by
    simp only [findSome?_take, FilePath.getElem?_ancestors]
    rfl
  rw [hs, find?]
  induction start.ancestors.take depth
  case nil => rfl
  case cons dir dirs ih =>
    rw [List.map_cons, List.find?_cons, isFile_join, List.findSome?_cons]
    cases hf : fileIn? t dir
    case none      => exact ih
    case some node => simp [readText_join hf]

theorem find?_of_none (h : ∀ i < depth, fileAbove? t start i = none) : find? t start depth = none := by
  rw [find?_eq, findSome?_range_eq_none_iff.mpr h]
  rfl

theorem find?_of_nearest (hd : steps < depth) (h : Nearest t start steps node) :
    find? t start depth = node.text.toOption.bind parse? := by
  rw [find?_eq, findSome?_range_eq_some_iff.mpr ⟨steps, hd, h.found, h.first⟩]
  rfl

theorem none_or_nearest : (∀ i < depth, fileAbove? t start i = none) ∨
    ∃ steps < depth, ∃ node, Nearest t start steps node := by
  cases h : (List.range depth).findSome? (fileAbove? t start)
  case none      => exact .inl (findSome?_range_eq_none_iff.mp h)
  case some node =>
    have ⟨steps, hd, hf, hn⟩ := findSome?_range_eq_some_iff.mp h
    exact .inr ⟨steps, hd, node, hf, hn⟩

-- Two trees that have the same files of settings up to the nearest one.
def AgreeUpToNearest (t t' : FileTree) (start : FilePath) (depth : Nat) : Prop :=
  ∀ i < depth, (∀ j < i, fileAbove? t start j = none) → fileAbove? t' start i = fileAbove? t start i

theorem Nearest.agree {t' : FileTree} (h : Nearest t start steps node)
    (he : ∀ i ≤ steps, fileAbove? t' start i = fileAbove? t start i) : AgreeUpToNearest t t' start depth := by
  intro i _ hn
  refine he i (Nat.le_of_not_lt fun hi => ?_)
  cases h.found.symm.trans (hn steps hi)

theorem find?_congr {t' : FileTree} (h : AgreeUpToNearest t t' start depth) :
    find? t' start depth = find? t start depth := by
  rw [find?_eq, find?_eq, findSome?_range_congr h]

-- Of the directories from the start upwards, as many as the depth says, the nearest one that has a file of
-- settings decides alone: what the file says is in force if it can be read and parsed, and the defaults
-- otherwise. No file further up has any influence, and neither has anything else.
theorem nearest_file_decides (t : FileTree) (start : FilePath) (depth : Nat) :
    ((∀ i < depth, fileAbove? t start i = none) ∨ ∃ steps < depth, ∃ node, Nearest t start steps node) ∧
    ((∀ i < depth, fileAbove? t start i = none) → find? t start depth = none) ∧
    (∀ steps node, steps < depth → Nearest t start steps node →
      (∀ text, node.text = .ok text → find? t start depth = parse? text) ∧
      (∀ e, node.text = .error e → find? t start depth = none)) ∧
    (∀ t', AgreeUpToNearest t t' start depth → find? t' start depth = find? t start depth) ∧
    (∀ t', AgreeUpToNearest t t' start maxSearchDepth → loadFrom t' start = loadFrom t start) ∧
    ∀ steps node, steps < maxSearchDepth → Nearest t start steps node →
      node.text.toOption.bind parse? = none → loadFrom t start = {} := by
  refine ⟨none_or_nearest, find?_of_none, fun steps node hd hn => ⟨fun text ht => ?_, fun e he => ?_⟩,
    fun t' => find?_congr, fun t' ha => ?_, fun steps node hd hn hb => ?_⟩
  case refine_1 => rw [find?_of_nearest hd hn, ht]; rfl
  case refine_2 => rw [find?_of_nearest hd hn, he]; rfl
  case refine_3 => rw [loadFrom, loadFrom, find?_congr ha]
  case refine_4 => rw [loadFrom, find?_of_nearest hd hn, hb]; rfl

-- Upwards from the hook there are a directory of that name, a broken file, and a file that can be used.
def yard : FileTree where
  nodes      := [
    (["yard"], .directory),
    (["yard", ".collgen.toml"], .file "[output]\nformat = \"json\"\n".toUTF8),
    (["yard", "crane"], .directory),
    (["yard", "crane", ".collgen.toml"], .file "not = [valid".toUTF8),
    (["yard", "crane", "hook"], .directory),
    (["yard", "crane", "hook", ".collgen.toml"], .directory)]
  workingDir := []
  nodup      := by decide

def rebuiltYard : FileTree :=
  (yard.erase ["yard", ".collgen.toml"]).put [".collgen.toml"] (.file "[output]\nformat = \"yaml\"\n".toUTF8)

theorem nearest_file_decides_yard :
    ((∀ i < 1, fileAbove? yard "yard/crane/hook" i = none) ∧ find? yard "yard/crane/hook" 1 = none) ∧
    (Nearest yard "yard" 0 (.file "[output]\nformat = \"json\"\n".toUTF8) ∧
      find? yard "yard" 1 = some { format := .json }) ∧
    (Nearest yard "yard/crane/hook" 1 (.file "not = [valid".toUTF8) ∧
      loadFrom yard "yard/crane/hook" = {}) ∧
    AgreeUpToNearest yard rebuiltYard "yard/crane/hook" maxSearchDepth ∧
      find? rebuiltYard "yard/crane/hook" maxSearchDepth = find? yard "yard/crane/hook" maxSearchDepth ∧
      loadFrom rebuiltYard "yard/crane/hook" = loadFrom yard "yard/crane/hook" := by
  have h0 : ∀ i < 1, fileAbove? yard "yard/crane/hook" i = none := by
    intro i hi
    cases Nat.lt_one_iff.mp hi
    rfl
  have hj : Nearest yard "yard" 0 (.file "[output]\nformat = \"json\"\n".toUTF8) := ⟨rfl, nofun⟩
  have hb : Nearest yard "yard/crane/hook" 1 (.file "not = [valid".toUTF8) := ⟨rfl, h0⟩
  have ha : AgreeUpToNearest yard rebuiltYard "yard/crane/hook" maxSearchDepth := by
    refine hb.agree fun i hi => ?_
    rcases Nat.le_one_iff_eq_zero_or_eq_one.mp hi with rfl | rfl <;> rfl
  have ⟨_, hn, _⟩ := nearest_file_decides yard "yard/crane/hook" 1
  have ⟨_, _, hf, _⟩ := nearest_file_decides yard "yard" 1
  have ⟨_, _, _, hs, hl, hd⟩ := nearest_file_decides yard "yard/crane/hook" maxSearchDepth
  refine ⟨⟨h0, hn h0⟩, ⟨hj, ?_⟩, ⟨hb, hd 1 _ (by decide) hb (by decide +kernel)⟩, ha, hs _ ha, hl _ ha⟩
  exact ((hf 0 _ Nat.one_pos hj).left _ rfl).trans (by decide +kernel)

end Config
end CollectionPlan
