import CollectionPlan.Proofs.Grammar.TypeParams
import CollectionPlan.Proofs.Lowering.Reading

open Relation CollectionPlan.TypeTree

namespace CollectionPlan

-- Where the first type has `Self` as a whole type, the second one has a name in its place. Arguments do not
-- matter to either.
inductive TypeTree.Names (name : String) : TypeTree → TypeTree → Prop
  | intro (site : Site) : Names name (site.fill (.path false [] "Self" applied args))
    (site.fill (.path false [] name applied' args'))

namespace TypeItem

-- The same in the type of a field or of a member of a variant.
inductive Body.Names (name : String) : Body → Body → Prop
  | field (h : f.type.Names name t) : Names name (.struct (before ++ f :: after))
    (.struct (before ++ { f with type := t } :: after))
  | member (h : f.type.Names name t) : Names name (.enum (variants ++ (before ++ f :: after) :: variants'))
    (.enum (variants ++ (before ++ { f with type := t } :: after) :: variants'))

-- Inside an item its name and `Self` mean the item.
structure KnowsItself (i : TypeItem) : Prop where
  self    : "Self" ∉ i.typeParams
  name    : i.name ∉ i.typeParams
  builtin : Builtin.isName i.name = false

variable {i : TypeItem} {b b' : Body} {t u : TypeTree} {s : Scope} {f : Field}

theorem lower_names (hk : i.KnowsItself) (h : t.Names i.name u) : i.scope.lower u = i.scope.lower t := by
  obtain @⟨applied, args, applied', args', site⟩ := h
  have hl : IsLocal false [] := .inl ⟨rfl, rfl⟩
  have hs : i.scope.Refers (.path false [] "Self" applied args) i.name := .self hl hk.self rfl
  have hn : i.scope.Refers (.path false [] i.name applied' args') i.name :=
    .name hl hk.name Identifier.ne_Self hk.builtin
  refine Scope.lower_fill ?_ fun _ => ?_
  · rw [Scope.lower_of_refers hs, Scope.lower_of_refers hn]
  · rw [hs.isName_eq_false, hn.isName_eq_false]

theorem lowerFields_type (h : s.lower t = s.lower f.type) :
    lowerFields s (before ++ { f with type := t } :: after) = lowerFields s (before ++ f :: after) := by
  simp [lowerFields, List.mapIdx_append, List.mapIdx_cons, lowerField, h]

theorem lowerMembers_type (h : s.lower t = s.lower f.type) :
    (variants ++ (before ++ { f with type := t } :: after) :: variants').flatMap
        (fun fields => fields.map fun f => s.lower f.type) =
      (variants ++ (before ++ f :: after) :: variants').flatMap
        (fun fields => fields.map fun f => s.lower f.type) := by
  simp [h]

theorem lower_body_names (hk : i.KnowsItself) (h : b.Names i.name b') :
    ({ i with body := b' } : TypeItem).lower = ({ i with body := b } : TypeItem).lower := by
  cases h
  case field h  =>
    have hl := lower_names hk h
    exact congrArg (fun fields => Declaration.mk i.name (.struct fields)) (lowerFields_type (s := i.scope) hl)
  case member h =>
    have hl := lower_names hk h
    exact congrArg (fun members => Declaration.mk i.name (.enum members)) (lowerMembers_type (s := i.scope) hl)

-- Any number of replacements, one after the other.
theorem lower_eq_of_names (hk : i.KnowsItself) (h : ReflTransGen (Body.Names i.name) i.body b) :
    ({ i with body := b } : TypeItem).lower = i.lower := by
  induction h
  case refl           => rfl
  case tail hstep ih  => exact (lower_body_names hk hstep).trans ih

end TypeItem

-- In a struct or an enum the name of the item can stand for `Self`, in as many places of its members as one
-- likes, if it is neither that of a builtin type nor that of one of its type parameters. The declaration is
-- the same then, and so is all that a model with the item in it says.
theorem TypeItem.self_is_ownName {items : List (Option TypeItem)} {i : TypeItem} {b : TypeItem.Body}
    (hg : Grammar.items source = .ok items) (hi : some i ∈ items) (hb : Builtin.isName i.name = false)
    (hp : i.name ∉ i.typeParams) (h : ReflTransGen (Body.Names i.name) i.body b) :
    ({ i with body := b } : TypeItem).lower = i.lower ∧
    ∀ (m : TypeModel) before after,
      (m.declareItems (before ++ some { i with body := b } :: after)).toUniverse =
        (m.declareItems (before ++ some i :: after)).toUniverse := by
  have hl := lower_eq_of_names ⟨Grammar.self_not_mem_typeParams hg hi, hp, hb⟩ h
  refine ⟨hl, fun m before after => ?_⟩
  simp [TypeModel.declareItems, TypeItem.filterMap_lower?, hl]

namespace TypeItem

-- A struct that holds itself behind a reference in a pair, and in a list.
def nodeSource : String :=
  "struct Node<T> { pair: (T, &Self), rest: Vec<Self> }"

-- Its members, with a type in the place of each `Self`.
def nodeBody (first second : TypeTree) : Body :=
  .struct [⟨some "pair", [], .tuple [.path false [] "T" false [], .reference first]⟩,
    ⟨some "rest", [], .path false [] "Vec" true [second]⟩]

def nodeItem (first second : TypeTree) : TypeItem :=
  ⟨⟨⟨"Node", by decide⟩, by decide⟩, ["T"], [], nodeBody first second⟩

theorem self_is_ownName_node :
    let self := TypeTree.path false [] "Self" false []
    let node := TypeTree.path false [] "Node" true [.path false [] "T" false []]
    Grammar.items nodeSource = .ok [some (nodeItem self self)] ∧
    Builtin.isName "Node" = false ∧ "Node" ∉ ["T"] ∧
    (nodeItem node node).lower = (nodeItem self self).lower := by
  intro self node
  have hg : (Grammar.items nodeSource).toOption = some [some (nodeItem self self)] := by decide +kernel
  have hg : Grammar.items nodeSource = .ok [some (nodeItem self self)] := by
    cases h : Grammar.items nodeSource <;> rw [h] at hg <;> cases hg
    rfl
  have hb : Builtin.isName "Node" = false := by decide
  have hp : "Node" ∉ ["T"] := by decide
  have h₁ : (nodeBody self self).Names "Node" (nodeBody node self) := by
    change Body.Names _ (.struct ([] ++ _ :: _)) (.struct ([] ++ _ :: _))
    exact .field (.intro [.tupleElement [.path false [] "T" false []] [], .referent])
  have h₂ : (nodeBody node self).Names "Node" (nodeBody node node) := by
    change Body.Names _ (.struct ([_] ++ _ :: [])) (.struct ([_] ++ _ :: []))
    exact .field (.intro [.argument false [] "Vec" true [] []])
  have hr : ReflTransGen (Body.Names "Node") (nodeBody self self) (nodeBody node node) := .tail (.single h₁) h₂
  have ⟨hl, _⟩ := self_is_ownName (i := nodeItem self self) hg (by simp) hb hp hr
  exact ⟨hg, hb, hp, hl⟩

end TypeItem
end CollectionPlan
