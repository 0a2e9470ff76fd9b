import CollectionPlan.TypeModel
import Mathlib.Data.List.Count
import Mathlib.Logic.Relation

open Relation

namespace CollectionPlan

-- The parts of a tuple and of a collection come with a hypothesis each.
@[induction_eliminator]
theorem TypeExpr.induct {motive : TypeExpr → Prop}
    (primitive : ∀ p, motive (.primitive p))
    (unit      : motive .unit)
    (pointer   : ∀ inner, motive inner → motive (.pointer inner))
    (wrapper   : ∀ inner, motive inner → motive (.wrapper inner))
    (array     : ∀ inner, motive inner → motive (.array inner))
    (tuple     : ∀ elems, (∀ e ∈ elems, motive e) → motive (.tuple elems))
    (dynamic   : ∀ name args, (∀ e ∈ args, motive e) → motive (.dynamic name args))
    (function  : motive .function)
    (named     : ∀ name, motive (.named name))
    (unknown   : ∀ text, motive (.unknown text)) :
    ∀ e, motive e :=
  @TypeExpr.rec motive (fun es => ∀ e ∈ es, motive e)
    primitive unit pointer wrapper array tuple dynamic function named unknown
    (by simp) (by simp_all)

namespace TypeExpr

mutual

-- Whether two expressions are the same, part by part.
def same : TypeExpr → TypeExpr → Bool
  | primitive p, primitive p'              => p = p'
  | unit, unit | function, function        => true
  | pointer e, pointer e'                  => e.same e'
  | wrapper e, wrapper e'                  => e.same e'
  | array e, array e'                      => e.same e'
  | tuple es, tuple es'                    => allSame es es'
  | dynamic name args, dynamic name' args' => name = name' && allSame args args'
  | named name, named name'                => name = name'
  | unknown text, unknown text'            => text = text'
  | _, _                                   => false

def allSame : List TypeExpr → List TypeExpr → Bool
  | [], []             => true
  | e :: es, e' :: es' => e.same e' && allSame es es'
  | _, _               => false

end

theorem allSame_iff (h : ∀ e ∈ es, ∀ e', same e e' ↔ e = e') : allSame es es' ↔ es = es' := by
  induction es generalizing es' <;> cases es' <;> simp_all [allSame]

theorem same_iff {e e' : TypeExpr} : e.same e' ↔ e = e' := by
  induction e generalizing e'
  case tuple ih | dynamic ih => cases e' <;> simp [same, allSame_iff ih]
  all_goals cases e' <;> simp_all [same]

instance : DecidableEq TypeExpr :=
  fun _ _ => decidable_of_iff _ same_iff

end TypeExpr

deriving instance DecidableEq for TypeHandle

namespace TypeModel

variable {m : TypeModel}

theorem declares_of_find? (h : m.find? n = some d) : m.declares n := by
  simp [declares, h]

theorem mem_names_of_find? (h : m.find? n = some d) : n ∈ m.names :=
  declares_iff.mp (declares_of_find? h)

def IsAlias (m : TypeModel) (n : String) : Prop :=
  (m.alias? n).isSome

theorem isAlias_of_alias? (h : m.alias? n = some t) : m.IsAlias n := by
  simp [IsAlias, h]

theorem isAlias_iff (h : m.find? n = some d) : m.IsAlias n ↔ d.isAlias := by
  obtain ⟨name, body⟩ := d
  cases body <;> simp [IsAlias, alias?, h, Declaration.isAlias]

theorem alias?_eq_some (h : m.alias? n = some t) :
    ∃ d, m.find? n = some d ∧ d.isAlias ∧ d.members = [t] := by
  unfold alias? at h
  split at h
  case h_1 name target hf =>
    cases h
    exact ⟨_, hf, rfl, rfl⟩
  case h_2 => contradiction

-- One step of a path: to the content of an owning type, to an element of a tuple, or from a name to
-- a member of its declaration. There is none from a pointer.
inductive Child (m : TypeModel) : TypeExpr → TypeExpr → Prop
  | wrapper : Child m (.wrapper e) e
  | array   : Child m (.array e) e
  | elem    (he : e ∈ es) : Child m (.tuple es) e
  | member  (hd : m.find? n = some d) (he : e ∈ d.members) : Child m (.named n) e

def Reaches (m : TypeModel) : TypeExpr → TypeExpr → Prop :=
  ReflTransGen m.Child

-- A step that does not look into a declaration of the given names.
def ChildOutside (m : TypeModel) (ns : List String) (e e' : TypeExpr) : Prop :=
  m.Child e e' ∧ ∀ n ∈ ns, e ≠ .named n

-- A path of such steps. It may end at one of the names.
def ReachesOutside (m : TypeModel) (ns : List String) : TypeExpr → TypeExpr → Prop :=
  ReflTransGen (m.ChildOutside ns)

theorem ChildOutside.mono (h : m.ChildOutside ns e e') (hs : ns' ⊆ ns) : m.ChildOutside ns' e e' :=
  ⟨h.left, fun n hn => h.right n (hs hn)⟩

namespace ReachesOutside

theorem mono (h : m.ReachesOutside ns e e') (hs : ns' ⊆ ns) : m.ReachesOutside ns' e e' := by
  have hle : m.ChildOutside ns ≤ m.ChildOutside ns' := fun _ _ hc => hc.mono hs
  exact ReflTransGen.mono hle _ _ h

theorem reaches (h : m.ReachesOutside ns e e') : m.Reaches e e' := by
  have hle : m.ChildOutside ns ≤ m.Child := fun _ _ hc => hc.left
  exact ReflTransGen.mono hle _ _ h

-- A path that avoids some names avoids more of them, or it comes to one of these first.
theorem first_visit (ns' : List String) (h : m.ReachesOutside ns e e') :
    m.ReachesOutside (ns' ++ ns) e e' ∨ ∃ n ∈ ns', m.ReachesOutside (ns' ++ ns) e (.named n) := by
  induction h using ReflTransGen.head_induction_on
  case refl => exact .inl .refl
  case head e₁ e₂ hc _ ih =>
    by_cases he : ∃ n ∈ ns', e₁ = .named n
    case pos =>
      have ⟨n, hn, he⟩ := he
      exact .inr ⟨n, hn, he ▸ .refl⟩
    case neg =>
      have hs : m.ChildOutside (ns' ++ ns) e₁ e₂ := by
        refine ⟨hc.left, fun n hn hne => ?_⟩
        cases List.mem_append.mp hn
        case inl hn => exact he ⟨n, hn, hne⟩
        case inr hn => exact hc.right n hn hne
      cases ih
      case inl ih => exact .inl (.head hs ih)
      case inr ih =>
        have ⟨n, hn, ih⟩ := ih
        exact .inr ⟨n, hn, .head hs ih⟩

-- A path avoids a name or visits it for a last time.
theorem last_visit (n : String) (h : m.ReachesOutside ns e e') :
    m.ReachesOutside (n :: ns) e e' ∨
      ∃ t, m.Child (.named n) t ∧ m.ReachesOutside (n :: ns) t e' := by
  induction h using ReflTransGen.head_induction_on
  case refl => exact .inl .refl
  case head e₁ e₂ hc _ ih =>
    cases ih
    case inr ih => exact .inr ih
    case inl ih =>
      by_cases he : e₁ = .named n
      case pos => exact .inr ⟨e₂, he ▸ hc.left, ih⟩
      case neg =>
        refine .inl (.head ⟨hc.left, fun n' hn' => ?_⟩ ih)
        cases hn'
        case head    => exact he
        case tail hn => exact hc.right n' hn

-- What is reached through a name is reached from one of its members, without coming back to the name.
theorem last_member (hc : m.Child (.named n) e) (h : m.ReachesOutside ns e e') :
    ∃ t, m.Child (.named n) t ∧ m.ReachesOutside (n :: ns) t e' := by
  cases last_visit n h
  case inl h => exact ⟨e, hc, h⟩
  case inr h => exact h

end ReachesOutside

theorem reachesOutside_nil : m.ReachesOutside [] e e' ↔ m.Reaches e e' where
  mp  := ReachesOutside.reaches
  mpr := by
    have hle : m.Child ≤ m.ChildOutside [] := fun _ _ hc => ⟨hc, by simp⟩
    exact ReflTransGen.mono hle _ _

-- The number of declarations that are not among the given names. It bounds what is left of a walk
-- that enters no name twice.
def unvisited (m : TypeModel) (ns : List String) : Nat :=
  m.names.countP (· ∉ ns)

theorem unvisited_le_size (ns : List String) : m.unvisited ns ≤ m.size := by
  have h := List.countP_le_length (p := fun n => decide (n ∉ ns)) (l := m.names)
  simpa [unvisited, names, size] using h

theorem unvisited_cons_lt (hn : n ∈ m.names) (hv : n ∉ ns) :
    m.unvisited (n :: ns) < m.unvisited ns := by
  have hle : m.names.countP (· ∉ n :: ns) ≤ (m.names.erase n).countP (· ∉ ns) := by
    rw [(List.perm_cons_erase hn).countP_eq, List.countP_cons_of_neg (by simp)]
    exact List.countP_mono_left (by simp)
  have heq : m.names.countP (· ∉ ns) = (m.names.erase n).countP (· ∉ ns) + 1 := by
    rw [(List.perm_cons_erase hn).countP_eq, List.countP_cons_of_pos (by simpa)]
  simp only [unvisited]
  omega

-- A name that a path goes through is declared, so that one declaration less is left to visit.
theorem Child.unvisited_lt (hc : m.Child (.named n) e) (hv : n ∉ ns) :
    m.unvisited (n :: ns) < m.unvisited ns := by
  cases hc
  case member hd _ => exact unvisited_cons_lt (mem_names_of_find? hd) hv

end TypeModel
end CollectionPlan
