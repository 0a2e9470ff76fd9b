import CollectionPlan.Plan.Directory
import CollectionPlan.Proofs.Planning.LegacyCheck
import CollectionPlan.Proofs.Source.Listing

namespace CollectionPlan

open Collecting

namespace Glob

-- The first pattern that does not parse, and what is wrong with it.
def firstInvalid? : List String → Option (String × Error)
  | []      => none
  | p :: ps =>
    match parse p with
    | .error e => some (p, e)
    | .ok _    => firstInvalid? ps

def valid (patterns : List String) : List Glob :=
  patterns.filterMap fun p => (parse p).toOption

-- Wherever patterns are parsed, the first invalid one is the failure.
theorem mapM_parse (fail : String → Error → Failure) {patterns : List String} :
    (patterns.mapM fun p => (parse p).mapError (fail p)) =
      (firstInvalid? patterns).elim (.ok (valid patterns)) fun (p, e) => .error (fail p e) := by
  induction patterns
  case nil => rfl
  case cons p ps ih =>
    rw [List.mapM_cons, ih]
    cases hp : parse p
    case error e =>
      have hi : firstInvalid? (p :: ps) = some (p, e) := by simp only [firstInvalid?, hp]
      rw [hi]
      rfl
    case ok g =>
      have hi : firstInvalid? (p :: ps) = firstInvalid? ps := by simp only [firstInvalid?, hp]
      have hv : valid (p :: ps) = g :: valid ps := by simp [valid, hp, Except.toOption]
      rw [hi, hv]
      cases firstInvalid? ps <;> rfl

end Glob

namespace SourceEntry

def source? (e : SourceEntry) : Option SourceFile :=
  e.node.text.toOption.map fun text => { path := e.path, text }

def readFinding? (e : SourceEntry) : Option Diagnostic :=
  match e.node.text with
  | .error error => some ⟨.parseFailure, none, e.unreadable error⟩
  | .ok _        => none

theorem yields_readAll {es : List SourceEntry} :
    (readAll es).Yields (es.filterMap source?) (es.filterMap readFinding?) := by
  induction es
  case nil => exact .pure _
  case cons e es ih =>
    unfold readAll
    cases ht : e.node.text
    case error error =>
      have hs : e.source? = none := by simp [source?, ht, Except.toOption]
      have hf : e.readFinding? = some ⟨.parseFailure, none, e.unreadable error⟩ := by
        simp [readFinding?, ht]
      rw [List.filterMap_cons_none hs, List.filterMap_cons_some hf]
      exact Yields.note.bind ih
    case ok text =>
      have hs : e.source? = some ⟨e.path, text⟩ := by simp [source?, ht, Except.toOption]
      have hf : e.readFinding? = none := by simp [readFinding?, ht]
      rw [List.filterMap_cons_some hs, List.filterMap_cons_none hf]
      exact .of_eq (ih.bind <| .pure _) (List.append_nil _)

end SourceEntry

namespace SourceTree

variable {packageOf : String → String} {fs : List SourceFile} {tree : SourceTree} {legacyCheck : Bool}

theorem kind_of_mem_planFindings (h : x ∈ tree.planFindings legacyCheck) : x.kind ≠ .parseFailure := by
  have ⟨t, _, hx⟩ := List.mem_flatMap.mp h
  cases List.mem_append.mp hx
  case inl hl =>
    split at hl
    case isTrue  => simp [DeclaredType.kind_of_mem_legacyFindings hl]
    case isFalse => cases hl
  case inr hp => exact (DeclaredType.kind_of_mem_planFindings hp).right

-- Files that do not parse add nothing to a tree.
theorem parsedTree_filter : parsedTree packageOf (fs.filter (·.isParsable)) = parsedTree packageOf fs := by
  have hp (f : SourceFile) : (if f.isParsable then f.parse? else none) = f.parse? := by
    cases hp : f.parse?
    case none   => simp
    case some p => simp [SourceFile.parse?_eq_some hp]
  simp only [parsedTree, List.filterMap_filter, hp]

theorem report_of_yields {found : List Diagnostic} {run : Collecting SourceTree} (h : run.Yields tree found) :
    report run legacyCheck = ⟨tree.planned, found ++ tree.planFindings legacyCheck⟩ := by
  unfold report
  rw [(h.bind yields_plan).run_alone]

end SourceTree

namespace FileTree

variable {t : FileTree} {dir : FilePath} {c : Config}

theorem planDirectory_of_invalid (h : Glob.firstInvalid? c.ignore = some (p, e)) :
    t.planDirectory dir c = .error (Config.invalidPattern p e) := by
  rw [planDirectory, Config.patterns, Glob.mapM_parse, h]
  rfl

theorem planDirectory_of_valid (h : Glob.firstInvalid? c.ignore = none) :
    t.planDirectory dir c = (t.discover dir c.ignore).map (SourceTree.report · c.legacyTagCheck) := by
  rw [planDirectory, Config.patterns, Glob.mapM_parse, h]
  cases t.discover dir c.ignore <;> rfl

theorem discover_of_error (h : t.find dir = .error e) :
    t.discover dir ignore = .error (.fileSystem "cannot access source directory" dir (some e)) := by
  rw [discover, h]
  rfl

theorem discover_of_file (h : t.find dir = .ok node) (hf : node.isFile = true) :
    t.discover dir ignore = .error (.fileSystem "source path is not a directory" dir none) := by
  rw [discover, h]
  cases node
  case directory => cases hf
  all_goals rfl

theorem find_eq_ok_iff : t.find dir = .ok node ↔
    ∃ place, t.locate dir = .ok place ∧ t.node? place = some node := by
  unfold find
  cases t.locate dir
  case error => simp [bind, Except.bind]
  case ok place =>
    cases hn : t.node? place <;> simp [bind, Except.bind, hn]

-- What is right inside of the directory is read and parsed.
theorem discover_of_directory (h : Glob.firstInvalid? ignore = none) (hl : t.locate dir = .ok place)
    (hn : t.node? place = some .directory) :
    t.discover dir ignore = .ok (do
      let files ← SourceEntry.readAll ((t.listing place dir).filter (isSource (Glob.valid ignore)))
      SourceTree.ofSources t.packageName files) := by
  rw [discover, find_eq_ok_iff.mpr ⟨place, hl, hn⟩]
  have hs : t.findSources dir ignore = .ok ((t.listing place dir).filter (isSource (Glob.valid ignore))) := by
    rw [findSources, parsePatterns, Glob.mapM_parse fun _ => .pattern, h]
    simp [sourceEntries, hl, hn, bind, Except.bind]
  simp only [hs]
  rfl

-- The source files right inside of a directory that no pattern excludes, in the order of their paths.
structure Lists (t : FileTree) (dir : FilePath) (ignore : List String) (entries : List SourceEntry) :
    Prop where
  ascending : (entries.map (·.path)).Pairwise (· < ·)
  mem_iff   : ∀ e, e ∈ entries ↔ isSource (Glob.valid ignore) e = true ∧
    ∃ place name, t.locate dir = .ok place ∧ e.path = dir.join name ∧
      t.node? (place ++ [name]) = some e.node

-- What is reported of some source files. Those that cannot be read come first, then those that do not parse,
-- and the others are planned as if they were alone.
structure Reports (t : FileTree) (c : Config) (entries : List SourceEntry) (report : Report)
    (tree : SourceTree) (rest : List Diagnostic) : Prop where
  diagnostics_eq : report.diagnostics = entries.filterMap (·.readFinding?) ++
    SourceFile.parseFindings (entries.filterMap (·.source?)) ++ rest
  kind_ne        : ∀ x ∈ rest, x.kind ≠ .parseFailure
  yields_tree    : (SourceTree.ofSources t.packageName
    ((entries.filterMap (·.source?)).filter (·.isParsable))).Yields tree []
  yields_plan    : (tree.plan c.legacyTagCheck).Yields report.packages rest

theorem lists_listing (hl : t.locate dir = .ok place) :
    t.Lists dir ignore ((t.listing place dir).filter (isSource (Glob.valid ignore))) where
  ascending := pairwise_listing.sublist (List.filter_sublist.map _)
  mem_iff e := by
    rw [List.mem_filter, mem_listing_iff, and_comm]
    refine and_congr_right fun _ => ⟨fun ⟨name, h⟩ => ⟨place, name, hl, h⟩, ?_⟩
    rintro ⟨place', name, hl', h⟩
    cases hl.symm.trans hl'
    exact ⟨name, h⟩

theorem reports_discovered {entries : List SourceEntry}
    (ht : SourceTree.parsedTree t.packageName (entries.filterMap (·.source?)) = tree) :
    t.Reports c entries
      (SourceTree.report (do SourceTree.ofSources t.packageName (← SourceEntry.readAll entries))
        c.legacyTagCheck)
      tree (tree.planFindings c.legacyTagCheck) := by
  subst ht
  rw [SourceTree.report_of_yields (SourceEntry.yields_readAll.bind SourceTree.yields_ofSources)]
  exact {
    diagnostics_eq := rfl
    kind_ne        := fun _ => SourceTree.kind_of_mem_planFindings
    yields_tree    := by
      rw [←SourceTree.parsedTree_filter]
      refine .of_eq SourceTree.yields_ofSources ?_
      simp [SourceFile.parseFindings]
    yields_plan    := SourceTree.yields_plan }

theorem planDirectory_of_error (h : Glob.firstInvalid? c.ignore = none) (hf : t.find dir = .error e) :
    t.planDirectory dir c = .error (.fileSystem "cannot access source directory" dir (some e)) := by
  rw [planDirectory_of_valid h, discover_of_error hf]
  rfl

theorem planDirectory_of_file (h : Glob.firstInvalid? c.ignore = none) (hf : t.find dir = .ok node)
    (hn : node.isFile = true) :
    t.planDirectory dir c = .error (.fileSystem "source path is not a directory" dir none) := by
  rw [planDirectory_of_valid h, discover_of_file hf hn]
  rfl

theorem planDirectory_of_directory (h : Glob.firstInvalid? c.ignore = none)
    (hf : t.find dir = .ok .directory) :
    ∃ report entries tree rest, t.planDirectory dir c = .ok report ∧ t.Lists dir c.ignore entries ∧
      t.Reports c entries report tree rest := by
  have ⟨place, hl, hn⟩ := find_eq_ok_iff.mp hf
  rw [planDirectory_of_valid h, discover_of_directory h hl hn]
  exact ⟨_, _, _, _, rfl, lists_listing hl, reports_discovered rfl⟩

-- Only the settings and the directory itself can stop a run, in this order. All that is wrong with single
-- files is reported, and takes nothing from the other files.
theorem planDirectory_outcome (t : FileTree) (dir : FilePath) (c : Config) :
    (∀ p e, Glob.firstInvalid? c.ignore = some (p, e) →
      t.planDirectory dir c = .error (Config.invalidPattern p e)) ∧
    (Glob.firstInvalid? c.ignore = none →
      (∀ e, t.find dir = .error e →
        t.planDirectory dir c = .error (.fileSystem "cannot access source directory" dir (some e))) ∧
      (∀ node, t.find dir = .ok node → node.isFile = true →
        t.planDirectory dir c = .error (.fileSystem "source path is not a directory" dir none)) ∧
      (t.find dir = .ok .directory → ∃ report entries tree rest,
        t.planDirectory dir c = .ok report ∧ t.Lists dir c.ignore entries ∧
        t.Reports c entries report tree rest)) ∧
    ∀ f, t.planDirectory dir c = .error f →
      (∃ text, f = .configuration text) ∨ ∃ text cause, f = .fileSystem text dir cause := by
  refine ⟨fun _ _ => planDirectory_of_invalid, fun h => ⟨fun _ => planDirectory_of_error h,
    fun _ => planDirectory_of_file h, planDirectory_of_directory h⟩, fun f hf => ?_⟩
  cases hi : Glob.firstInvalid? c.ignore
  case some =>
    cases hf.symm.trans (planDirectory_of_invalid hi)
    exact .inl ⟨_, rfl⟩
  case none =>
    cases hn : t.find dir
    case error =>
      cases hf.symm.trans (planDirectory_of_error hi hn)
      exact .inr ⟨_, _, rfl⟩
    case ok node =>
      cases hk : node.isFile
      case false =>
        have hd : node = .directory := by
          cases node
          case directory => rfl
          all_goals cases hk
        have ⟨_, _, _, _, hr, _⟩ := planDirectory_of_directory hi (hd ▸ hn)
        cases hf.symm.trans hr
      case true =>
        cases hf.symm.trans (planDirectory_of_file hi hn hk)
        exact .inr ⟨_, _, rfl⟩

-- A directory with a file that parses, one that ends too early, and one that cannot be opened.
def harbor : FileTree where
  nodes      := [
    (["src"], .directory),
    (["src", "pier.rs"], .locked .denied),
    (["src", "crane.rs"], .file "struct".toUTF8),
    (["src", "boat.rs"], .file "struct Boat;".toUTF8)]
  workingDir := []
  nodup      := by decide

theorem planDirectory_outcome_harbor :
    Glob.firstInvalid? [] = none ∧ harbor.find "src" = .ok .directory ∧
    ∃ report entries tree rest,
      harbor.planDirectory "src" {} = .ok report ∧ harbor.Lists "src" [] entries ∧
      harbor.Reports {} entries report tree rest ∧
      ⟨.parseFailure, none, "failed to read src/pier.rs (Permission denied (os error 13))"⟩ ∈
        report.diagnostics := by
  have hp : Glob.firstInvalid? [] = none := rfl
  have hd : harbor.find "src" = .ok .directory := by rfl
  have ⟨report, entries, tree, rest, ho, hl, hr⟩ :=
    ((planDirectory_outcome harbor "src" {}).right.left hp).right.right hd
  have hpier : (⟨"src/pier.rs", .locked .denied⟩ : SourceEntry) ∈ entries := by
    refine (hl.mem_iff _).mpr ⟨?_, ["src"], "pier.rs", ?_, ?_, ?_⟩
    all_goals rfl
  have hf : (⟨"src/pier.rs", .locked .denied⟩ : SourceEntry).readFinding? =
      some ⟨.parseFailure, none, "failed to read src/pier.rs (Permission denied (os error 13))"⟩ := by rfl
  refine ⟨hp, hd, report, entries, tree, rest, ho, hl, hr, ?_⟩
  rw [hr.diagnostics_eq, List.append_assoc]
  exact List.mem_append_left _ (List.mem_filterMap.mpr ⟨_, hpier, hf⟩)

end FileTree
end CollectionPlan
