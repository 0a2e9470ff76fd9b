import CollectionPlan.Proofs.FilePath.FileName
import CollectionPlan.Proofs.Planning.Directory

namespace CollectionPlan

namespace Glob

variable {patterns patterns' : List String}

def AllValid (patterns : List String) : Prop :=
  ∀ p ∈ patterns, ∃ g, parse p = .ok g

theorem mem_valid_iff {g : Glob} : g ∈ valid patterns ↔ ∃ p ∈ patterns, parse p = .ok g := by
  have hp (p : String) : (parse p).toOption = some g ↔ parse p = .ok g := by
    cases parse p <;> simp [Except.toOption]
  simp [valid, List.mem_filterMap, hp]

theorem firstInvalid?_eq_none_iff : firstInvalid? patterns = none ↔ AllValid patterns := by
  unfold AllValid
  induction patterns
  case nil => simp [firstInvalid?]
  case cons p ps ih =>
    rw [List.forall_mem_cons, firstInvalid?]
    cases hp : parse p
    case error => simp
    case ok    => simpa using ih

theorem AllValid.append (h : AllValid patterns) (h' : AllValid patterns') : AllValid (patterns ++ patterns') :=
  List.forall_mem_append.mpr ⟨h, h'⟩

end Glob

-- Entries in the order of their paths are determined by which they are.
theorem SourceEntry.eq_of_ascending {es es' : List SourceEntry} (h : (es.map (·.path)).Pairwise (· < ·))
    (h' : (es'.map (·.path)).Pairwise (· < ·)) (hm : ∀ e, e ∈ es ↔ e ∈ es') : es = es' := by
  have _ : Std.Irrefl fun e e' : SourceEntry => e.path < e'.path := ⟨fun e => lt_irrefl e.path⟩
  have _ : Std.Antisymm fun e e' : SourceEntry => e.path < e'.path :=
    ⟨fun e e' hl hg => absurd hg (lt_asymm hl)⟩
  exact (List.pairwise_map.mp h).eq_of_mem_iff (List.pairwise_map.mp h') hm

namespace FileTree

variable {t t' : FileTree} {dir : FilePath} {place : Place} {ignore ignore' : List String}

-- A regular file right inside of a directory, with the extension of a source file, that no pattern matches.
structure IsSourceFile (t : FileTree) (place : Place) (dir : FilePath) (ignore : List String)
    (e : SourceEntry) : Prop where
  inside    : ∃ name, e.path = dir.join name ∧ t.node? (place ++ [name]) = some e.node
  isFile    : e.node.isFile = true
  extension : e.path.extension? = some "rs"
  kept      : ∀ p ∈ ignore, ∀ g, Glob.parse p = .ok g →
    g.isMatch e.path = false ∧ g.isMatch (e.path.fileName?.getD "") = false

-- The source files of a directory.
def sourcesIn (t : FileTree) (place : Place) (dir : FilePath) (ignore : List String) : List SourceEntry :=
  (t.listing place dir).filter (isSource (Glob.valid ignore))

theorem isIgnored_eq_false_iff {p : FilePath} : isIgnored (Glob.valid ignore) p = false ↔
    ∀ pattern ∈ ignore, ∀ g, Glob.parse pattern = .ok g →
      g.isMatch p = false ∧ g.isMatch (p.fileName?.getD "") = false := by
  simp only [isIgnored, List.any_eq_false, Glob.mem_valid_iff, Bool.or_eq_true, not_or, Bool.not_eq_true]
  exact ⟨fun h p hp g hg => h g ⟨p, hp, hg⟩, fun h g ⟨p, hp, hg⟩ => h p hp g hg⟩

theorem mem_sourcesIn_iff {e : SourceEntry} :
    e ∈ t.sourcesIn place dir ignore ↔ t.IsSourceFile place dir ignore e := by
  simp only [sourcesIn, List.mem_filter, mem_listing_iff, isSource, Bool.and_eq_true, decide_eq_true_eq,
    Bool.not_eq_true', isIgnored_eq_false_iff]
  exact ⟨fun ⟨hi, ⟨hf, he⟩, hk⟩ => ⟨hi, hf, he, hk⟩, fun h => ⟨h.inside, ⟨h.isFile, h.extension⟩, h.kept⟩⟩

theorem pairwise_sourcesIn : ((t.sourcesIn place dir ignore).map (·.path)).Pairwise (· < ·) :=
  pairwise_listing.sublist (List.filter_sublist.map _)

-- A file is kept by all patterns if it is kept by those of each part.
theorem isSourceFile_append_iff {e : SourceEntry} : t.IsSourceFile place dir (ignore ++ ignore') e ↔
    t.IsSourceFile place dir ignore e ∧ t.IsSourceFile place dir ignore' e := by
  constructor
  case mp =>
    intro h
    have ⟨hk, hk'⟩ := List.forall_mem_append.mp h.kept
    exact ⟨{ h with kept := hk }, { h with kept := hk' }⟩
  case mpr =>
    intro ⟨h, h'⟩
    exact { h with kept := List.forall_mem_append.mpr ⟨h.kept, h'.kept⟩ }

-- Finding.

theorem findSources_of_invalid (h : Glob.firstInvalid? ignore = some (p, e)) :
    t.findSources dir ignore = .error (.pattern e) := by
  rw [findSources, parsePatterns, Glob.mapM_parse fun _ => .pattern, h]
  rfl

theorem findSources_of_valid (h : Glob.AllValid ignore) :
    t.findSources dir ignore = t.sourceEntries dir (Glob.valid ignore) := by
  rw [findSources, parsePatterns, Glob.mapM_parse fun _ => .pattern, Glob.firstInvalid?_eq_none_iff.mpr h]
  rfl

section Located

variable (h : Glob.AllValid ignore)
include h

theorem findSources_of_error (hl : t.locate dir = .error e) :
    t.findSources dir ignore = .error (.walk dir e) := by
  rw [findSources_of_valid h, sourceEntries, hl]

theorem findSources_of_file (hl : t.locate dir = .ok place) (hn : t.node? place ≠ some .directory) :
    t.findSources dir ignore = .ok [] := by
  rw [findSources_of_valid h, sourceEntries, hl]
  dsimp only
  split
  · exact absurd ‹_› hn
  · rfl

theorem findSources_of_directory (hl : t.locate dir = .ok place) (hn : t.node? place = some .directory) :
    t.findSources dir ignore = .ok (t.sourcesIn place dir ignore) := by
  rw [findSources_of_valid h, sourceEntries, hl]
  dsimp only
  rw [hn]
  rfl

-- Patterns count as a set.
theorem findSources_of_same (hs : ∀ p, p ∈ ignore' ↔ p ∈ ignore) :
    t.findSources dir ignore' = t.findSources dir ignore := by
  have h' : Glob.AllValid ignore' := fun p hp => h p ((hs p).mp hp)
  have hi : isSource (Glob.valid ignore') = isSource (Glob.valid ignore) := by
    funext e
    have hm : isIgnored (Glob.valid ignore') e.path = isIgnored (Glob.valid ignore) e.path := by
      rw [←Bool.not_inj_iff, Bool.eq_iff_iff]
      simp only [Bool.not_eq_true', isIgnored_eq_false_iff, hs]
    rw [isSource, isSource, hm]
  rw [findSources_of_valid h, findSources_of_valid h', sourceEntries, sourceEntries, hi]

end Located

-- The order in which nodes are listed.

theorem node?_perm (h : t'.nodes.Perm t.nodes) : t'.node? place = t.node? place := by
  unfold node?
  split
  case isTrue => rfl
  case isFalse =>
    ext node
    rw [lookup_eq_some_iff_mem t'.nodup, lookup_eq_some_iff_mem t.nodup, h.mem_iff]

section Perm

variable (hd : t'.workingDir = t.workingDir) (hn : t'.nodes.Perm t.nodes)
include hn

theorem walk_perm {steps : List (List Char)} : t'.walk place steps = t.walk place steps := by
  induction steps generalizing place
  case nil => rfl
  case cons step steps ih => simp only [walk, node?_perm hn, ih]

theorem listing_perm : t'.listing place dir = t.listing place dir :=
  SourceEntry.eq_of_ascending pairwise_listing pairwise_listing fun e => by
    simp only [mem_listing_iff, node?_perm hn]

include hd

theorem locate_perm : t'.locate dir = t.locate dir := by
  rw [locate, locate, start, start, hd, walk_perm hn]

theorem findSources_perm : t'.findSources dir ignore = t.findSources dir ignore := by
  have hs (patterns : List Glob) : t'.sourceEntries dir patterns = t.sourceEntries dir patterns := by
    simp only [sourceEntries, locate_perm hd hn, node?_perm hn, listing_perm hn]
  rw [findSources, findSources, funext hs]

end Perm

-- The source files of a directory are the regular files right inside of it that have the extension and that
-- no pattern matches, in the order of their paths, however the directory is listed. The patterns count as a
-- set, each of them taking away what it matches; a single invalid one is a failure everywhere.
theorem findSources_exact (t : FileTree) (dir : FilePath) (ignore : List String) :
    ((∃ p ∈ ignore, ∃ e, Glob.parse p = .error e) →
      ∃ e, ∀ (t : FileTree) (dir : FilePath), t.findSources dir ignore = .error (.pattern e)) ∧
    (Glob.AllValid ignore →
      (∀ e, t.locate dir = .error e → t.findSources dir ignore = .error (.walk dir e)) ∧
      (∀ place, t.locate dir = .ok place → t.node? place ≠ some .directory →
        t.findSources dir ignore = .ok []) ∧
      (∀ place, t.locate dir = .ok place → t.node? place = some .directory → ∃ entries,
        t.findSources dir ignore = .ok entries ∧
        (entries.map (·.path)).Pairwise (· < ·) ∧
        (∀ e, e ∈ entries ↔ t.IsSourceFile place dir ignore e) ∧
        ∀ ignore', Glob.AllValid ignore' → ∃ entries' common,
          t.findSources dir ignore' = .ok entries' ∧
          t.findSources dir (ignore ++ ignore') = .ok common ∧
          ∀ e, e ∈ common ↔ e ∈ entries ∧ e ∈ entries') ∧
      ∀ ignore', (∀ p, p ∈ ignore' ↔ p ∈ ignore) → t.findSources dir ignore' = t.findSources dir ignore) ∧
    (∀ t' : FileTree, t'.workingDir = t.workingDir → t'.nodes.Perm t.nodes →
      t'.findSources dir ignore = t.findSources dir ignore) ∧
    ∀ name, FilePath.IsName name → (dir.join name).fileName? = some name ∧
      ((dir.join name).extension? = some "rs" ↔ ∃ stem, stem ≠ "" ∧ name = stem ++ ".rs") := by
  refine ⟨fun ⟨p, hp, e, he⟩ => ?_, fun h => ⟨fun _ => findSources_of_error h, fun _ => findSources_of_file h,
    fun place hl hn => ?_, fun _ => findSources_of_same h⟩, fun _ => findSources_perm, fun name hn => ?_⟩
  case refine_1 =>
    cases hi : Glob.firstInvalid? ignore
    case none   =>
      have ⟨g, hg⟩ := Glob.firstInvalid?_eq_none_iff.mp hi p hp
      cases hg.symm.trans he
    case some f => exact ⟨f.2, fun _ _ => findSources_of_invalid hi⟩
  case refine_2 =>
    refine ⟨_, findSources_of_directory h hl hn, pairwise_sourcesIn, fun _ => mem_sourcesIn_iff,
      fun ignore' h' => ⟨_, _, findSources_of_directory h' hl hn,
        findSources_of_directory (h.append h') hl hn, fun e => ?_⟩⟩
    rw [mem_sourcesIn_iff, mem_sourcesIn_iff, mem_sourcesIn_iff, isSourceFile_append_iff]
  case refine_3 =>
    have hd : '.' ∉ "rs".toList := by decide
    have hr (stem : String) : stem ++ "." ++ "rs" = stem ++ ".rs" := String.append_assoc
    refine ⟨FilePath.fileName?_join hn, ?_⟩
    simp only [FilePath.extension?_join_eq_some_iff hn, hr, hd, not_false_eq_true, and_true]

-- A directory with sources, one of which cannot be read, and with things that are called alike.
def depot : FileTree where
  nodes      := [
    (["notes.md"], .file "".toUTF8),
    (["src"], .directory),
    (["src", "crate.rs"], .file "struct Crate;".toUTF8),
    (["src", "crate_gen.rs"], .file "".toUTF8),
    (["src", "barrel.rs"], .locked .denied),
    (["src", "lib.rs"], .directory),
    (["src", ".rs"], .file "".toUTF8)]
  workingDir := []
  nodup      := by decide

def relistedDepot : FileTree where
  nodes      := depot.nodes.reverse
  workingDir := []
  nodup      := by decide

theorem findSources_exact_depot :
    (∃ e, ∀ (t : FileTree) (dir : FilePath), t.findSources dir ["*_gen.rs", "["] = .error (.pattern e)) ∧
    depot.findSources "absent" ["*_gen.rs"] = .error (.walk "absent" .notFound) ∧
    depot.findSources "notes.md" ["*_gen.rs"] = .ok [] ∧
    (∃ entries entries' common,
      depot.findSources "src" ["*_gen.rs"] = .ok entries ∧
      depot.findSources "src" ["src/b*"] = .ok entries' ∧
      depot.findSources "src" ["*_gen.rs", "src/b*"] = .ok common ∧
      ⟨"src/barrel.rs", .locked .denied⟩ ∈ entries ∧ ⟨"src/barrel.rs", .locked .denied⟩ ∉ common) ∧
    depot.findSources "src" ["*_gen.rs", "*_gen.rs"] = depot.findSources "src" ["*_gen.rs"] ∧
    relistedDepot.findSources "src" ["*_gen.rs"] = depot.findSources "src" ["*_gen.rs"] ∧
    FilePath.extension? "src/.rs" ≠ some "rs" := by
  have hg : Glob.AllValid ["*_gen.rs"] := List.forall_mem_singleton.mpr ⟨_, rfl⟩
  have hb : Glob.AllValid ["src/b*"] := List.forall_mem_singleton.mpr ⟨_, rfl⟩
  have hl : depot.locate "src" = .ok ["src"] := by rfl
  have ⟨hi, hv, hp, hx⟩ := findSources_exact depot "src" ["*_gen.rs"]
  have ⟨_, _, hd, hs⟩ := hv hg
  have ⟨entries, hf, _, hm, hc⟩ := hd ["src"] hl rfl
  have ⟨entries', common, hf', hfc, _⟩ := hc ["src/b*"] hb
  have ⟨_, hv', _⟩ := findSources_exact depot "src" ["*_gen.rs", "src/b*"]
  have ⟨_, hfa, _, hma, _⟩ := (hv' (hg.append hb)).right.right.left ["src"] hl rfl
  cases hfc.symm.trans hfa
  have hbarrel : depot.IsSourceFile ["src"] "src" ["*_gen.rs"] ⟨"src/barrel.rs", .locked .denied⟩ := {
    inside    := ⟨"barrel.rs", rfl, rfl⟩
    isFile    := rfl
    extension := by rfl
    kept      := List.forall_mem_singleton.mpr fun g hg => by
      cases Except.ok.inj (hg.symm.trans rfl)
      decide }
  have hhidden : FilePath.IsName ".rs" := ⟨by decide, by decide, by decide, by decide⟩
  have ⟨hinvalid, _⟩ := findSources_exact depot "src" ["*_gen.rs", "["]
  have ⟨_, habsent, _⟩ := findSources_exact depot "absent" ["*_gen.rs"]
  have ⟨_, hnotes, _⟩ := findSources_exact depot "notes.md" ["*_gen.rs"]
  refine ⟨hinvalid ⟨"[", by simp, ⟨.unclosedClass, 0⟩, by rfl⟩, (habsent hg).left _ (by rfl),
    (hnotes hg).right.left ["notes.md"] (by rfl) nofun,
    ⟨entries, entries', _, hf, hf', hfc, (hm _).mpr hbarrel, fun hcommon => ?_⟩, hs _ (by simp),
    hp relistedDepot rfl (List.reverse_perm _), fun he => ?_⟩
  case refine_1 =>
    have hp : Glob.parse "src/b*" =
        .ok ⟨[.char 's', .char 'r', .char 'c', .char '/', .char 'b', .anyText]⟩ := by rfl
    have ⟨hk, _⟩ := ((hma _).mp hcommon).kept "src/b*" (by simp) _ hp
    exact absurd hk (by decide)
  case refine_2 =>
    obtain ⟨stem, hne, hstem⟩ := (hx ".rs" hhidden).right.mp he
    have hl : ".rs".toList = stem.toList ++ ".rs".toList := by
      rw [←String.toList_append, ←hstem]
    exact hne (String.toList_eq_nil_iff.mp (List.self_eq_append_left.mp hl))

end FileTree
end CollectionPlan
