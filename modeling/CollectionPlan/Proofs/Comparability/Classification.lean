import CollectionPlan.Proofs.Comparability.Cycle

open Relation

namespace CollectionPlan

namespace TypeExpr

mutual

-- Replaces what the pointers of an expression point to.
def mapPointees (f : TypeExpr → TypeExpr) : TypeExpr → TypeExpr
  | pointer inner     => pointer (f inner)
  | wrapper inner     => wrapper (inner.mapPointees f)
  | array inner       => array (inner.mapPointees f)
  | tuple elems       => tuple (mapPointeesOf f elems)
  | primitive p       => primitive p
  | unit              => unit
  | dynamic name args => dynamic name args
  | function          => function
  | named name        => named name
  | unknown text      => unknown text

def mapPointeesOf (f : TypeExpr → TypeExpr) : List TypeExpr → List TypeExpr
  | []      => []
  | e :: es => e.mapPointees f :: mapPointeesOf f es

end

theorem mapPointeesOf_eq : mapPointeesOf f es = es.map (mapPointees f) := by
  induction es <;> simp_all [mapPointeesOf]

@[simp]
theorem comparableWith_mapPointees {e : TypeExpr} :
    (e.mapPointees f).comparableWith atName = e.comparableWith atName := by
  induction e <;> simp_all [mapPointees, comparableWith]
  case tuple elems ih =>
    simp only [allComparableWith_eq, mapPointeesOf_eq, List.all_map]
    rw [Bool.eq_iff_iff, List.all_eq_true, List.all_eq_true]
    exact forall₂_congr fun e he => by simp [ih e he]

end TypeExpr

namespace Declaration

def mapPointees (f : TypeExpr → TypeExpr) (d : Declaration) : Declaration where
  name := d.name
  body :=
    match d.body with
    | .alias target  => .alias (target.mapPointees f)
    | .struct fields => .struct (fields.map fun field => { field with type := field.type.mapPointees f })
    | .enum members  => .enum (members.map (·.mapPointees f))

@[simp]
theorem isAlias_mapPointees {d : Declaration} : (d.mapPointees f).isAlias = d.isAlias := by
  obtain ⟨_, _ | _ | _⟩ := d <;> rfl

@[simp]
theorem members_mapPointees {d : Declaration} :
    (d.mapPointees f).members = d.members.map (·.mapPointees f) := by
  obtain ⟨_, _ | _ | _⟩ := d <;> simp [mapPointees, members]

end Declaration

namespace TypeModel

variable {m : TypeModel}

def mapPointees (m : TypeModel) (f : TypeExpr → TypeExpr) : TypeModel where
  decls := m.decls.map (·.mapPointees f)
  nodup := by
    have h : (m.decls.map (·.mapPointees f)).map (·.name) = m.decls.map (·.name) := by
      simp [Declaration.mapPointees]
    exact h ▸ m.nodup

theorem find?_mapPointees : (m.mapPointees f).find? n = (m.find? n).map (·.mapPointees f) := by
  unfold find? mapPointees
  rw [List.find?_map]
  rfl

theorem comparableName_mapPointees :
    (m.mapPointees f).comparableName fuel visiting n = m.comparableName fuel visiting n := by
  induction fuel generalizing visiting n
  case zero => cases h : m.find? n <;> simp [comparableName, find?_mapPointees, h]
  case succ fuel ih =>
    have hf : (m.mapPointees f).comparableName fuel (n :: visiting) =
        m.comparableName fuel (n :: visiting) := funext fun _ => ih
    cases h : m.find? n <;> simp [comparableName, find?_mapPointees, h, hf, Function.comp_def]

-- What a pointer points to never matters, be it in the expression or in a declaration.
theorem comparable_mapPointees : (m.mapPointees f).comparable (e.mapPointees f) = m.comparable e := by
  have hn : (m.mapPointees f).comparableName m.size [] = m.comparableName m.size [] :=
    funext fun _ => comparableName_mapPointees
  have hs : (m.mapPointees f).size = m.size := by simp [size, mapPointees]
  simp [comparable, hs, hn]

-- A step of a path on which all declarations that it looks into are aliases.
def AliasChild (m : TypeModel) (e e' : TypeExpr) : Prop :=
  m.Child e e' ∧ ∀ n, e = .named n → m.IsAlias n

def OnAliasCycle (m : TypeModel) (n : String) : Prop :=
  TransGen m.AliasChild (.named n) (.named n)

theorem Child.sizeOf_lt (hc : m.Child e e') (hn : ∀ n, e ≠ .named n) : sizeOf e' < sizeOf e := by
  cases hc
  case wrapper | array => simp
  case elem he         => have := List.sizeOf_lt_of_mem he; simp; omega
  case member          => exact absurd rfl (hn _)

-- On a cycle of aliases the search either goes on or comes back to one of them.
theorem Refuted.of_aliasCycle {visiting : List String} {e : TypeExpr} (h : TransGen m.AliasChild e e) :
    m.Refuted visiting e := by
  have ⟨e', hc, hp⟩ := TransGen.head'_iff.mp h
  have h' := TransGen.tail' hp hc
  by_cases hn : ∃ n, e = .named n
  case neg =>
    replace hn : ∀ n, e ≠ .named n := fun n he => hn ⟨n, he⟩
    have := hc.left.sizeOf_lt hn
    exact .inside hn hc.left (of_aliasCycle h')
  case pos =>
    obtain ⟨n, rfl⟩ := hn
    by_cases hv : n ∈ visiting
    case pos => exact .back (hc.right n rfl) hv
    case neg =>
      have := hc.left.unvisited_lt hv
      exact .member hv hc.left (of_aliasCycle h')
termination_by (m.unvisited visiting, sizeOf e)

-- The search for an incomparable part comes to its end in every model. It finds whatever a path leads
-- to and every cycle of aliases; if there is neither and no alias is part of a recursion, the answer is
-- yes. What a pointer points to has no say in it.
theorem comparable_classification (m : TypeModel) (e : TypeExpr) :
    (∀ b, m.Search [] e b ↔ m.comparable e = b) ∧
    (m.comparable e = true →
      (∀ e', m.Reaches e e' → ¬m.Incomparable e') ∧
      ∀ n, m.Reaches e (.named n) → ¬m.OnAliasCycle n) ∧
    ((∀ e', m.Reaches e e' → ¬m.Incomparable e') →
      (∀ a, m.IsAlias a → m.Reaches e (.named a) → ¬m.OnCycle a) → m.comparable e = true) ∧
    ∀ f, (m.mapPointees f).comparable (e.mapPointees f) = m.comparable e := by
  refine ⟨fun _ => search_iff, fun h => ⟨?_, fun n hp hc => ?_⟩, fun hi hc => ?_, fun _ => ?_⟩
  case refine_1 => exact (comparable_iff_paths.mp h).left
  case refine_2 =>
    have hp := reachesOutside_nil.mpr hp
    exact comparable_iff.mp h <| .of_reachesOutside hp fun _ _ => .of_aliasCycle hc
  case refine_3 => exact comparable_iff_paths.mpr ⟨hi, fun a ha h => hc a ha h.reaches h.onCycle⟩
  case refine_4 => exact comparable_mapPointees

-- Two structs that refer to each other through owning types.
def mutualLists : TypeModel where
  decls := [
    ⟨"Left", .struct [⟨"right", .wrapper (.named "Right"), ""⟩]⟩,
    ⟨"Right", .struct [⟨"left", .wrapper (.wrapper (.named "Left")), ""⟩, ⟨"value", .primitive .int, ""⟩]⟩]
  nodup := by decide

theorem comparable_classification_mutualLists :
    mutualLists.comparable (.named "Left") = true ∧
    (∀ e, mutualLists.Reaches (.named "Left") e → ¬mutualLists.Incomparable e) ∧
    ∀ n, mutualLists.Reaches (.named "Left") (.named n) → ¬mutualLists.OnAliasCycle n := by
  have h : mutualLists.comparable (.named "Left") = true := by decide
  exact ⟨h, (comparable_classification mutualLists (.named "Left")).right.left h⟩

end TypeModel
end CollectionPlan
