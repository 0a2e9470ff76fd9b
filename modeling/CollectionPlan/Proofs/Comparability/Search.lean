import CollectionPlan.Proofs.TypeGraph

namespace CollectionPlan.TypeModel

variable {m : TypeModel}

-- The search for a part that is not comparable as rules: below the names in `visiting`, the search
-- at an expression ends with an answer. A tuple is left at the first element that is not comparable,
-- and a declaration is searched like the tuple of its members. There is no budget, so that a
-- derivation is a search that comes to its end.
inductive Search (m : TypeModel) : List String → TypeExpr → Bool → Prop
  | primitive  : Search m visiting (.primitive p) true
  | unit       : Search m visiting .unit true
  | pointer    : Search m visiting (.pointer e) true
  | wrapper    (h : Search m visiting e b) : Search m visiting (.wrapper e) b
  | array      (h : Search m visiting e b) : Search m visiting (.array e) b
  | tupleAll   (h : ∀ e ∈ es, Search m visiting e true) : Search m visiting (.tuple es) true
  | tupleStop  (h : ∀ e ∈ es, Search m visiting e true) (hf : Search m visiting e false) :
    Search m visiting (.tuple (es ++ e :: es')) false
  | dynamic    : Search m visiting (.dynamic name args) false
  | function   : Search m visiting .function false
  | unknown    : Search m visiting (.unknown text) false
  | undeclared (hd : m.find? n = none) : Search m visiting (.named n) false
  | back       (hd : m.find? n = some d) (hv : n ∈ visiting) : Search m visiting (.named n) (!d.isAlias)
  | enter      (hd : m.find? n = some d) (hv : n ∉ visiting)
    (h : Search m (n :: visiting) (.tuple d.members) b) : Search m visiting (.named n) b

-- If the answers at names are those of a search, so are the answers at all expressions.
theorem search_comparableWith (h : ∀ n, m.Search visiting (.named n) (atName n)) (e : TypeExpr) :
    m.Search visiting e (e.comparableWith atName) := by
  induction e <;> simp only [TypeExpr.comparableWith]
  case primitive      => exact .primitive
  case unit           => exact .unit
  case pointer        => exact .pointer
  case wrapper ih     => exact .wrapper ih
  case array ih       => exact .array ih
  case dynamic        => exact .dynamic
  case function       => exact .function
  case named n        => exact h n
  case unknown        => exact .unknown
  case tuple elems ih =>
    rw [TypeExpr.allComparableWith_eq]
    cases hf : elems.find? (!TypeExpr.comparableWith atName ·)
    case none =>
      have ha : ∀ e ∈ elems, e.comparableWith atName = true := by simpa using hf
      rw [List.all_eq_true.mpr ha]
      exact .tupleAll fun e he => ha e he ▸ ih e he
    case some e =>
      have ⟨he, es, es', heq, ha⟩ := List.find?_eq_some_iff_append.mp hf
      simp only [Bool.not_eq_true', Bool.not_not] at he ha
      subst heq
      have hall : (es ++ e :: es').all (TypeExpr.comparableWith atName) = false := by simp [he]
      rw [hall]
      exact .tupleStop (fun e' he' => ha e' he' ▸ ih e' (by simp [he'])) (he ▸ ih e (by simp))

theorem comparableName_enter (hd : m.find? n = some d) (hv : n ∉ visiting) :
    m.comparableName (fuel + 1) visiting n =
      (TypeExpr.tuple d.members).comparableWith (m.comparableName fuel (n :: visiting)) := by
  simp [comparableName, hd, hv, TypeExpr.comparableWith, TypeExpr.allComparableWith_eq]

-- Every name that is entered leaves one declaration less to visit, so that the budget lasts.
theorem search_comparableName {fuel : Nat} {visiting : List String} {n : String}
    (hf : m.unvisited visiting ≤ fuel) :
    m.Search visiting (.named n) (m.comparableName fuel visiting n) := by
  cases hd : m.find? n
  case none => cases fuel <;> simpa [comparableName, hd] using Search.undeclared hd
  case some d =>
    by_cases hv : n ∈ visiting
    case pos => cases fuel <;> simpa [comparableName, hd, hv] using Search.back hd hv
    case neg =>
      have hlt := unvisited_cons_lt (mem_names_of_find? hd) hv
      cases fuel
      case zero => omega
      case succ fuel =>
        have hb : m.unvisited (n :: visiting) ≤ fuel := by omega
        rw [comparableName_enter hd hv]
        exact .enter hd hv <| search_comparableWith (fun _ => search_comparableName hb) _

theorem search_comparable (m : TypeModel) (e : TypeExpr) : m.Search [] e (m.comparable e) :=
  search_comparableWith (fun _ => search_comparableName (unvisited_le_size [])) e

end CollectionPlan.TypeModel
