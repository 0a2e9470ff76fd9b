import CollectionPlan.Proofs.Declarations
import CollectionPlan.Proofs.Planning.Candidates
import CollectionPlan.Proofs.Source.Order
import Mathlib.Data.List.Perm.Basic

namespace CollectionPlan

open Collecting

theorem Collecting.Yields.note : (Collecting.note kind message).Yields () [⟨kind, none, message⟩] :=
  fun _ => rfl

namespace DeclaredType

variable {file : String} {item : Option TypeItem} {items : List (Option TypeItem)}

theorem ofItem?_eq : ofItem? file item = item.map fun i => { name := i.name, doc := i.doc, file } := by
  cases item
  case none   => rfl
  case some i => cases h : i.body <;> simp [ofItem?, h]

theorem filterMap_ofItem? : items.filterMap (ofItem? file) =
    (items.filterMap id).map fun i => { name := i.name, doc := i.doc, file } := by
  rw [List.map_filterMap]
  exact List.filterMap_congr fun _ _ => ofItem?_eq

end DeclaredType

namespace ParsedFile

variable {p : ParsedFile}

-- The items that the planner sees are those that are declared in the model, in the same order.
theorem names_types : p.types.map (·.name) = (p.items.filterMap TypeItem.lower?).map (·.name) := by
  rw [types, DeclaredType.filterMap_ofItem?, TypeItem.filterMap_lower?, List.map_map, List.map_map]
  rfl

end ParsedFile

namespace SourceFile

def isParsable (f : SourceFile) : Bool :=
  (Grammar.items f.text).toOption.isSome

-- The declarations of types in a file, from top to bottom. There are none if it does not parse.
def typeItems (f : SourceFile) : List TypeItem :=
  (Grammar.items f.text).toOption.elim [] (·.filterMap id)

def declaredTypes (f : SourceFile) : List DeclaredType :=
  f.typeItems.map fun i => { name := i.name, doc := i.doc, file := f.path }

def parseFinding (f : SourceFile) : Diagnostic where
  kind     := .parseFailure
  typeName := none
  message  := s!"failed to parse {f.path} (<syntax>)"

def parseFindings (fs : List SourceFile) : List Diagnostic :=
  (fs.filter (!·.isParsable)).map (·.parseFinding)

variable {f : SourceFile} {fs : List SourceFile}

theorem parse?_eq_some (h : f.parse? = some p) :
    f.isParsable = true ∧ p.path = f.path ∧ p.items.filterMap id = f.typeItems := by
  unfold parse? at h
  cases hi : Grammar.items f.text
  case error    => simp [hi] at h
  case ok items =>
    simp only [hi, Option.some.injEq] at h
    simp [isParsable, typeItems, hi, Except.toOption, ←h]

theorem parse?_eq_none (h : f.parse? = none) : f.isParsable = false ∧ f.typeItems = [] := by
  unfold parse? at h
  cases hi : Grammar.items f.text
  case error => simp [isParsable, typeItems, hi, Except.toOption]
  case ok    => simp [hi] at h

theorem types_of_parse? (h : f.parse? = some p) : p.types = f.declaredTypes := by
  have ⟨_, hp, hi⟩ := parse?_eq_some h
  rw [ParsedFile.types, DeclaredType.filterMap_ofItem?, hp, hi, declaredTypes]

theorem yields_parseAll : (parseAll fs).Yields (fs.filterMap (·.parse?)) (parseFindings fs) := by
  induction fs
  case nil => exact .pure _
  case cons f fs ih =>
    unfold parseAll
    cases hp : f.parse?
    case none =>
      have ⟨hf, _⟩ := parse?_eq_none hp
      have hn : parseFindings (f :: fs) = [f.parseFinding] ++ parseFindings fs := by
        simp [parseFindings, hf]
      rw [List.filterMap_cons_none hp, hn]
      exact Yields.note.bind ih
    case some p =>
      have ⟨hf, _⟩ := parse?_eq_some hp
      have hn : parseFindings (f :: fs) = parseFindings fs ++ [] := by simp [parseFindings, hf]
      rw [List.filterMap_cons_some hp, hn]
      exact ih.bind (.pure _)

-- What is collected from parsed files is collected from the sources, as long as a file that does not
-- parse adds nothing.
theorem flatMap_parsed {g : ParsedFile → List α} {g' : SourceFile → List α}
    (hs : ∀ f p, f.parse? = some p → g p = g' f) (hn : ∀ f, f.parse? = none → g' f = []) :
    (fs.filterMap (·.parse?)).flatMap g = fs.flatMap g' := by
  induction fs
  case nil => rfl
  case cons f fs ih =>
    cases hp : f.parse?
    case none   => simp [hp, ih, hn f hp]
    case some p => simp [hp, ih, hs f p hp]

theorem items_parsed : (fs.filterMap (·.parse?)).flatMap (·.items.filterMap id) = fs.flatMap (·.typeItems) :=
  flatMap_parsed (fun _ _ h => (parse?_eq_some h).right.right) fun _ h => (parse?_eq_none h).right

theorem types_parsed : (fs.filterMap (·.parse?)).flatMap (·.types) = fs.flatMap (·.declaredTypes) :=
  flatMap_parsed (fun _ _ => types_of_parse?) fun _ h => by simp [declaredTypes, parse?_eq_none h]

theorem names_declaredTypes :
    (fs.flatMap (·.declaredTypes)).map (·.name) = (fs.flatMap (·.typeItems)).map (·.name) := by
  simp [List.map_flatMap, declaredTypes, Function.comp_def]

-- The declared types of the files of one package, in source order.
def typesIn (packageOf : String → String) (fs : List SourceFile) (package : String) : List DeclaredType :=
  (fs.filter (packageOf ·.path = package)).flatMap (·.declaredTypes)

theorem isParsable_of_mem_typesIn {packageOf : String → String} (h : t ∈ typesIn packageOf fs package) :
    ∃ f ∈ fs, f.isParsable = true ∧ packageOf f.path = package := by
  have ⟨f, hf, ht⟩ := List.mem_flatMap.mp h
  have ⟨hf, hp⟩ := List.mem_filter.mp hf
  refine ⟨f, hf, ?_, by simpa using hp⟩
  cases hp : f.parse?
  case none   => simp [declaredTypes, parse?_eq_none hp] at ht
  case some p => exact (parse?_eq_some hp).left

theorem filter_parsed {packageOf : String → String} :
    (fs.filterMap (·.parse?)).filter (packageOf ·.path = package) =
      (fs.filter (packageOf ·.path = package)).filterMap (·.parse?) := by
  induction fs
  case nil => rfl
  case cons f fs ih =>
    cases hp : f.parse?
    case none   => by_cases hk : packageOf f.path = package <;> simp [hp, hk, ih]
    case some p =>
      have ⟨_, he, _⟩ := parse?_eq_some hp
      by_cases hk : packageOf f.path = package <;> simp [hp, he, hk, ih]

end SourceFile

namespace SourceTree

variable {packageOf : String → String} {files : List ParsedFile} {fs : List SourceFile} {n : String}

theorem names_ofFiles : (ofFiles packageOf files).packages.map (·.name) =
    SourcePackage.orderedNames (files.map fun p => packageOf p.path) := by
  simp [ofFiles, SourcePackage.ofFiles, Function.comp_def]

theorem orderedByName_ofFiles (hp : p ∈ (ofFiles packageOf files).packages) :
    OrderedByName p.types ((files.filter (packageOf ·.path = p.name)).flatMap (·.types)) := by
  obtain ⟨n, _, rfl⟩ := List.mem_map.mp hp
  exact .mergeSort

theorem types_ofFiles : (ofFiles packageOf files).types.Perm (files.flatMap (·.types)) := by
  let names := SourcePackage.orderedNames (files.map fun p => packageOf p.path)
  have hn : names.Nodup := SourcePackage.pairwise_orderedNames.nodup
  have hk : ∀ p ∈ files, packageOf p.path ∈ names := fun p hp => by
    simpa [names] using ⟨p, hp, rfl⟩
  have hg : ∀ n ∈ names, (SourcePackage.ofFiles packageOf files n).types.Perm
      ((files.filter (packageOf ·.path = n)).flatMap (·.types)) := fun _ _ => OrderedByName.mergeSort.perm
  calc (ofFiles packageOf files).types
    _ = names.flatMap fun n => (SourcePackage.ofFiles packageOf files n).types := by
      rw [types, ofFiles, List.flatMap_map]
    List.Perm _ (names.flatMap fun n => (files.filter (packageOf ·.path = n)).flatMap (·.types)) := by
      exact .flatMap_left _ hg
    _ = (names.flatMap fun n => files.filter (packageOf ·.path = n)).flatMap (·.types) :=
      List.flatMap_assoc.symm
    List.Perm _ (files.flatMap (·.types)) := (perm_flatMap_filter hn hk).flatMap_right _

-- The files are declared one after the other, which is to declare all of their items at once.
theorem model_ofFiles : (ofFiles packageOf files).model =
    TypeModel.empty.declareItems (files.flatMap (·.items)) := by
  simp only [ofFiles, TypeModel.declareItems, TypeModel.declareAll, List.filterMap_flatMap, List.foldl_flatMap]

theorem find?_ofFiles : (ofFiles packageOf files).model.find? n =
    ((files.flatMap (·.items.filterMap id)).find? (·.name = n)).map (·.lower) := by
  rw [model_ofFiles, TypeModel.find?_declareItems, List.filterMap_flatMap]

-- A name is declared in the model if the planner sees it, and the other way round.
theorem mem_names_ofFiles_iff : n ∈ (ofFiles packageOf files).model.names ↔
    n ∈ (ofFiles packageOf files).types.map (·.name) := by
  rw [model_ofFiles, TypeModel.declareItems, TypeModel.mem_names_declareAll_iff, (types_ofFiles.map _).mem_iff,
    List.filterMap_flatMap, List.map_flatMap, List.map_flatMap]
  simp [ParsedFile.names_types, TypeModel.names, TypeModel.empty]

-- The tree of the files that parse.
def parsedTree (packageOf : String → String) (fs : List SourceFile) : SourceTree :=
  ofFiles packageOf (fs.filterMap (·.parse?))

theorem yields_ofSources :
    (ofSources packageOf fs).Yields (parsedTree packageOf fs) (SourceFile.parseFindings fs) :=
  .of_eq (SourceFile.yields_parseAll.bind <| .pure _) (List.append_nil _)

theorem pairwise_names : ((parsedTree packageOf fs).packages.map (·.name)).Pairwise (· < ·) :=
  names_ofFiles ▸ SourcePackage.pairwise_orderedNames

theorem mem_names_iff : n ∈ (parsedTree packageOf fs).packages.map (·.name) ↔
    ∃ f ∈ fs, f.isParsable = true ∧ packageOf f.path = n := by
  rw [parsedTree, names_ofFiles, SourcePackage.mem_orderedNames]
  simp only [List.mem_map, List.mem_filterMap]
  constructor
  case mp =>
    rintro ⟨p, ⟨f, hf, hp⟩, rfl⟩
    have ⟨h, he, _⟩ := SourceFile.parse?_eq_some hp
    exact ⟨f, hf, h, he ▸ rfl⟩
  case mpr =>
    rintro ⟨f, hf, h, rfl⟩
    cases hp : f.parse?
    case none   => simp [SourceFile.parse?_eq_none hp] at h
    case some p => exact ⟨p, ⟨f, hf, hp⟩, by rw [(SourceFile.parse?_eq_some hp).right.left]⟩

theorem orderedByName_types (hp : p ∈ (parsedTree packageOf fs).packages) :
    OrderedByName p.types (SourceFile.typesIn packageOf fs p.name) := by
  have h := orderedByName_ofFiles hp
  rwa [SourceFile.filter_parsed, SourceFile.types_parsed] at h

theorem perm_types : (parsedTree packageOf fs).types.Perm (fs.flatMap (·.declaredTypes)) :=
  SourceFile.types_parsed ▸ types_ofFiles

theorem find?_model : (parsedTree packageOf fs).model.find? n =
    ((fs.flatMap (·.typeItems)).find? (·.name = n)).map (·.lower) := by
  rw [parsedTree, find?_ofFiles, SourceFile.items_parsed]

-- A file that does not parse leaves its finding and nothing else.
theorem parsedTree_erase (h : f.isParsable = false) :
    parsedTree packageOf (before ++ f :: after) = parsedTree packageOf (before ++ after) := by
  cases hp : f.parse?
  case none   => simp [parsedTree, hp]
  case some p => simp [SourceFile.parse?_eq_some hp] at h

-- Sources are read without loss: each package has the types that its files declare, ordered by name, and
-- the model has the first declaration of each name and no others. A file that does not parse leaves a
-- finding and nothing else.
theorem exact_ofSources (packageOf : String → String) (fs : List SourceFile) :
    ∃ tree, (ofSources packageOf fs).Yields tree (SourceFile.parseFindings fs) ∧
      (tree.packages.map (·.name)).Pairwise (· < ·) ∧
      (∀ n, n ∈ tree.packages.map (·.name) ↔
        ∃ f ∈ fs, f.isParsable = true ∧ packageOf f.path = n) ∧
      (∀ p ∈ tree.packages, OrderedByName p.types (SourceFile.typesIn packageOf fs p.name)) ∧
      tree.types.Perm (fs.flatMap (·.declaredTypes)) ∧
      (∀ n, n ∈ tree.model.names ↔ n ∈ tree.types.map (·.name)) ∧
      (∀ n, tree.model.find? n = ((fs.flatMap (·.typeItems)).find? (·.name = n)).map (·.lower)) ∧
      ∀ before f after, fs = before ++ f :: after → f.isParsable = false →
        (ofSources packageOf (before ++ after)).Yields tree
          (SourceFile.parseFindings (before ++ after)) := by
  refine ⟨parsedTree packageOf fs, yields_ofSources, pairwise_names, fun _ => mem_names_iff,
    fun _ => orderedByName_types, perm_types, fun _ => mem_names_ofFiles_iff, fun _ => find?_model, ?_⟩
  intro before f after hfs hf
  rw [hfs, parsedTree_erase hf]
  exact yields_ofSources

-- A file that ends too early between two files of one package, which declare a name twice.
def zebraStruct : SourceFile :=
  ⟨"zoo/lib.rs", "struct Zebra; type Ant = u8;"⟩

def brokenFile : SourceFile :=
  ⟨"zoo/broken.rs", "struct"⟩

def zebraEnum : SourceFile :=
  ⟨"zoo/mod.rs", "enum Zebra {}"⟩

theorem exact_ofSources_zoo :
    brokenFile.isParsable = false ∧
    ∃ tree,
      (ofSources (fun _ => "zoo") [zebraStruct, brokenFile, zebraEnum]).Yields tree
        (SourceFile.parseFindings [zebraStruct, brokenFile, zebraEnum]) ∧
      (ofSources (fun _ => "zoo") [zebraStruct, zebraEnum]).Yields tree
        (SourceFile.parseFindings [zebraStruct, zebraEnum]) := by
  have hb : brokenFile.isParsable = false := by decide +kernel
  have ⟨tree, ht, _, _, _, _, _, _, herase⟩ :=
    exact_ofSources (fun _ => "zoo") [zebraStruct, brokenFile, zebraEnum]
  exact ⟨hb, tree, ht, herase [zebraStruct] brokenFile [zebraEnum] rfl hb⟩

end SourceTree
end CollectionPlan
