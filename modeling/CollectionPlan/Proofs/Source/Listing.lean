import CollectionPlan.Proofs.Source.Order
import CollectionPlan.Source.Discovery
import Mathlib.Data.List.Nodup

namespace CollectionPlan

-- Under distinct keys looking up is membership.
theorem lookup_eq_some_iff_mem [BEq κ] [LawfulBEq κ] {xs : List (κ × β)} (hn : (xs.map (·.1)).Nodup) :
    xs.lookup k = some v ↔ (k, v) ∈ xs := by
  rw [List.lookup_eq_some_iff]
  constructor
  case mp =>
    rintro ⟨before, after, rfl, _⟩
    simp
  case mpr =>
    intro hm
    obtain ⟨before, after, rfl⟩ := List.append_of_mem hm
    refine ⟨before, after, rfl, fun p hp => ?_⟩
    rw [List.map_append, List.nodup_append] at hn
    simpa using (hn.right.right p.1 (List.mem_map_of_mem hp) k (by simp)).symm

-- A name behind a directory makes up a path, whatever the name is.
theorem FilePath.join_lt {dir : FilePath} (h : a < b) : dir.join a < dir.join b := by
  have happ (text : String) : text ++ a < text ++ b := by
    rw [String.lt_iff_toList_lt] at h ⊢
    rw [String.toList_append, String.toList_append]
    exact List.append_left_lt h
  unfold join
  split
  case isTrue  => exact happ dir
  case isFalse => exact happ (dir ++ "/")

namespace FileTree

variable {t : FileTree} {place other : Place} {dir : FilePath} {name : String} {node : Node}

-- The name that a place has in a directory.
def nameIn? (place other : Place) : Option String :=
  if other ≠ [] ∧ other.dropLast = place then other.getLast? else none

theorem nameIn?_eq_some_iff : nameIn? place other = some name ↔ other = place ++ [name] := by
  unfold nameIn?
  constructor
  case mp =>
    intro h
    have ⟨⟨_, hd⟩, hl⟩ := Option.ite_none_right_eq_some.mp h
    rw [←hd, List.dropLast_append_getLast? _ hl]
  case mpr =>
    rintro rfl
    simp

theorem entries_eq : t.entries place = t.nodes.filterMap fun (other, node) =>
    (nameIn? place other).map fun name => (name, node) := by
  unfold entries
  congr 1
  funext ⟨other, node⟩
  simp only [nameIn?]
  split <;> rfl

theorem nodup_names_entries : ((t.entries place).map (·.1)).Nodup := by
  have hn : (t.entries place).map (·.1) = (t.nodes.map (·.1)).filterMap (nameIn? place) := by
    simp [entries_eq, List.map_filterMap, List.filterMap_map, Function.comp_def]
  rw [hn]
  refine t.nodup.filterMap fun other other' name h h' => ?_
  rw [nameIn?_eq_some_iff.mp h, nameIn?_eq_some_iff.mp h']

theorem mem_entries_iff : (name, node) ∈ t.entries place ↔ t.node? (place ++ [name]) = some node := by
  rw [node?, if_neg (by simp), lookup_eq_some_iff_mem t.nodup, entries_eq, List.mem_filterMap]
  constructor
  case mp =>
    rintro ⟨⟨other, node'⟩, hm, he⟩
    obtain ⟨name', hn, he⟩ := Option.map_eq_some_iff.mp he
    cases he
    exact nameIn?_eq_some_iff.mp hn ▸ hm
  case mpr =>
    intro hm
    exact ⟨(place ++ [name], node), hm, by simp [nameIn?_eq_some_iff.mpr]⟩

-- Each node right inside of a directory is listed, with its path.
theorem mem_listing_iff {e : SourceEntry} : e ∈ t.listing place dir ↔
    ∃ name, e.path = dir.join name ∧ t.node? (place ++ [name]) = some e.node := by
  simp only [listing, List.mem_map, List.mem_mergeSort, Prod.exists, mem_entries_iff]
  constructor
  case mp =>
    rintro ⟨name, node, hn, rfl⟩
    exact ⟨name, rfl, hn⟩
  case mpr =>
    intro ⟨name, hp, hn⟩
    exact ⟨name, e.node, hn, by rw [←hp]⟩

-- The paths are in their order, each of them once.
theorem pairwise_listing : ((t.listing place dir).map (·.path)).Pairwise (· < ·) := by
  have htrans : ∀ a b c : String × Node,
      decide (a.1 ≤ b.1) → decide (b.1 ≤ c.1) → decide (a.1 ≤ c.1) := by
    intro a b c
    simpa only [decide_eq_true_eq] using le_trans
  have htotal : ∀ a b : String × Node, decide (a.1 ≤ b.1) || decide (b.1 ≤ a.1) := by
    intro a b
    simpa using le_total a.1 b.1
  let sorted := (t.entries place).mergeSort fun a b => a.1 ≤ b.1
  have hle : (sorted.map (·.1)).Pairwise (· ≤ ·) := by
    rw [List.pairwise_map]
    simpa using List.pairwise_mergeSort htrans htotal (t.entries place)
  have hn : (sorted.map (·.1)).Nodup :=
    ((List.mergeSort_perm ..).map _).nodup_iff.mpr nodup_names_entries
  have hlt : (sorted.map (·.1)).Pairwise (· < ·) :=
    hle.imp₂ (fun _ _ => lt_of_le_of_ne) hn
  rw [listing, List.map_map, List.pairwise_map]
  exact (List.pairwise_map.mp hlt).imp FilePath.join_lt

end FileTree
end CollectionPlan
