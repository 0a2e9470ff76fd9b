import CollectionPlan.Proofs.Planning.Tree
import CollectionPlan.Proofs.Resolution.Agreement
import Mathlib.Data.List.Flatten

namespace CollectionPlan

-- Under distinct keys each element is found.
theorem find?_key_eq_some_iff [DecidableEq κ] {key : α → κ} {xs : List α} (hn : (xs.map key).Nodup) :
    xs.find? (key · = k) = some x ↔ x ∈ xs ∧ key x = k := by
  constructor
  case mp => exact fun hx => ⟨List.mem_of_find?_eq_some hx, by simpa using List.find?_some hx⟩
  case mpr =>
    intro ⟨hx, hk⟩
    cases hf : xs.find? (key · = k)
    case none => exact absurd hk (by simpa using List.find?_eq_none.mp hf x hx)
    case some y =>
      have hy : key y = k := by simpa using List.find?_some hf
      rw [List.inj_on_of_nodup_map hn (List.mem_of_find?_eq_some hf) hx (hy.trans hk.symm)]

theorem find?_key_perm [DecidableEq κ] {key : α → κ} {xs ys : List α} {k : κ} (hp : xs.Perm ys)
    (hn : (xs.map key).Nodup) : xs.find? (key · = k) = ys.find? (key · = k) := by
  have hn' : (ys.map key).Nodup := (hp.map key).nodup_iff.mp hn
  refine Option.ext fun x => ?_
  rw [find?_key_eq_some_iff hn, find?_key_eq_some_iff hn', hp.mem_iff]

namespace SourceTree

section Permutation

variable {packageOf : String → String} {fs fs' : List SourceFile} (hp : fs.Perm fs')
variable (hn : ((fs.flatMap (·.typeItems)).map (·.name)).Nodup)
include hp

theorem perm_parseFindings : (SourceFile.parseFindings fs).Perm (SourceFile.parseFindings fs') :=
  (hp.filter _).map _

include hn

-- Files of one package may change places too, but their types are put in order by name.
theorem packages_perm : (parsedTree packageOf fs).packages = (parsedTree packageOf fs').packages := by
  have hf : (fs.filterMap (·.parse?)).Perm (fs'.filterMap (·.parse?)) := hp.filterMap _
  have hnames := SourcePackage.orderedNames_eq fun n => (hf.map fun p => packageOf p.path).mem_iff (a := n)
  unfold parsedTree ofFiles
  rw [hnames]
  refine List.map_congr_left fun n _ => ?_
  unfold SourcePackage.ofFiles
  rw [OrderedByName.mergeSort.unique .mergeSort ((hf.filter _).flatMap_right _) ?_]
  have hs : (((fs.filterMap (·.parse?)).filter (packageOf ·.path = n)).flatMap (·.types)).Sublist
      (fs.flatMap (·.declaredTypes)) :=
    SourceFile.types_parsed ▸ List.filter_sublist.flatMap _
  rw [←SourceFile.names_declaredTypes] at hn
  exact hn.sublist (hs.map _)

theorem agrees_perm : (parsedTree packageOf fs).model.Agrees (parsedTree packageOf fs').model := by
  intro n
  rw [find?_model, find?_model, find?_key_perm (hp.flatMap_right _) hn]

theorem planned_perm : (parsedTree packageOf fs).planned = (parsedTree packageOf fs').planned := by
  rw [planned, planned, packages_perm hp hn, (agrees_perm hp hn).toUniverse_eq]

theorem planFindings_perm {legacyCheck : Bool} : (parsedTree packageOf fs).planFindings legacyCheck =
    (parsedTree packageOf fs').planFindings legacyCheck := by
  rw [planFindings, planFindings, types, types, packages_perm hp hn, (agrees_perm hp hn).toUniverse_eq]

end Permutation

-- Files can be listed in any order as long as no name is declared twice: packages and plans are the same,
-- and the models answer alike. Only the findings about files that do not parse are listed in their order.
theorem fileOrder_independent (packageOf : String → String) (fs fs' : List SourceFile) (hp : fs.Perm fs')
    (hn : ((fs.flatMap (·.typeItems)).map (·.name)).Nodup) :
    ∃ tree tree' failures failures',
      (ofSources packageOf fs).Yields tree failures ∧
      (ofSources packageOf fs').Yields tree' failures' ∧
      tree.packages = tree'.packages ∧
      (∀ n, tree.model.find? n = tree'.model.find? n) ∧
      tree.model.size = tree'.model.size ∧
      tree.model.toUniverse = tree'.model.toUniverse ∧
      failures.Perm failures' ∧
      ∀ legacyCheck, ∃ plans found,
        (tree.plan legacyCheck).Yields plans found ∧ (tree'.plan legacyCheck).Yields plans found := by
  have ha : (parsedTree packageOf fs).model.Agrees (parsedTree packageOf fs').model := agrees_perm hp hn
  refine ⟨_, _, _, _, yields_ofSources, yields_ofSources, packages_perm hp hn, ha, ha.size_eq,
    ha.toUniverse_eq, perm_parseFindings hp, fun legacyCheck => ⟨_, _, yields_plan, ?_⟩⟩
  rw [planned_perm hp hn, planFindings_perm hp hn]
  exact yields_plan

-- An annotated type, an alias for it in a second file of the package, and a file that ends too early.
def marketStruct : SourceFile :=
  ⟨"market/lib.rs", "/// +gen methods:\"Max\"\nstruct Stall;"⟩

def marketAlias : SourceFile :=
  ⟨"market/mod.rs", "/// +gen * projections:\"Stall\"\ntype Booth = Stall;"⟩

def marketDraft : SourceFile :=
  ⟨"market/draft.rs", "struct"⟩

theorem fileOrder_independent_market :
    [marketStruct, marketDraft, marketAlias].Perm [marketAlias, marketStruct, marketDraft] ∧
    ([marketStruct, marketDraft, marketAlias].flatMap (·.typeItems)).map (·.name) = ["Stall", "Booth"] ∧
    ∃ tree tree' failures failures',
      (ofSources (fun _ => "market") [marketStruct, marketDraft, marketAlias]).Yields tree failures ∧
      (ofSources (fun _ => "market") [marketAlias, marketStruct, marketDraft]).Yields tree' failures' ∧
      tree.packages = tree'.packages ∧
      tree.model.toUniverse = tree'.model.toUniverse ∧
      ∀ legacyCheck, ∃ plans found,
        (tree.plan legacyCheck).Yields plans found ∧ (tree'.plan legacyCheck).Yields plans found := by
  have hp : ([marketStruct, marketDraft] ++ [marketAlias]).Perm
      ([marketAlias] ++ [marketStruct, marketDraft]) :=
    List.perm_append_comm
  have hn : ([marketStruct, marketDraft, marketAlias].flatMap (·.typeItems)).map (·.name) =
      ["Stall", "Booth"] := by
    decide +kernel
  have ⟨tree, tree', failures, failures', ht, ht', hpackages, _, _, huniverse, _, hplan⟩ :=
    fileOrder_independent (fun _ => "market") _ _ hp (hn ▸ by decide)
  exact ⟨hp, hn, tree, tree', failures, failures', ht, ht', hpackages, huniverse, hplan⟩

end SourceTree
end CollectionPlan
