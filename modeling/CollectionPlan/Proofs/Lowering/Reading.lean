import CollectionPlan.Proofs.Lowering.Site
import CollectionPlan.Proofs.Resolution.OwnName

namespace CollectionPlan

open TypeTree

namespace TypeExpr

-- The parts of an expression one level down, from left to right.
def parts : TypeExpr → List TypeExpr
  | pointer inner | wrapper inner | array inner               => [inner]
  | tuple elems                                               => elems
  | dynamic _ args                                            => args
  | primitive _ | unit | function | named _ | unknown _       => []

-- The part of an expression at a position, which is the way down to it.
def at? : List Nat → TypeExpr → Option TypeExpr
  | [], e            => some e
  | k :: position, e => e.parts[k]?.bind (at? position)

end TypeExpr

namespace Builtin

theorem type?_wrapper (h : name ∈ wrappers) : type? name es = some (es.head?.elim (.unknown name) .wrapper) := by
  simp only [wrappers, List.mem_cons, List.not_mem_nil, or_false] at h
  rcases h with rfl | rfl | rfl | rfl <;> rfl

theorem type?_collection (h : name ∈ collections) : type? name es = some (.dynamic name es) := by
  simp only [collections, List.mem_cons, List.not_mem_nil, or_false] at h
  rcases h with rfl | rfl | rfl | rfl | rfl | rfl | rfl | rfl <;> rfl

-- What a builtin type stands for.
inductive Reading (name : String) (es : List TypeExpr) : TypeExpr → Prop
  | primitive : Reading name es (.primitive p)
  | unknown   : Reading name es (.unknown text)
  | wrapper   (hw : name ∈ wrappers) (he : es = e :: es') : Reading name es (.wrapper e)
  | dynamic   (hc : name ∈ collections) : Reading name es (.dynamic name es)

theorem reading_of_type? (h : type? name es = some e) : Reading name es e := by
  by_cases hw : name ∈ wrappers
  case pos =>
    rw [type?_wrapper hw] at h
    cases es <;> cases h
    case nil  => exact .unknown
    case cons => exact .wrapper hw rfl
  by_cases hc : name ∈ collections
  case pos =>
    rw [type?_collection hc] at h
    cases h
    exact .dynamic hc
  case neg =>
    simp only [type?, List.contains_eq_mem, hw, hc, decide_false, Bool.false_eq_true, if_false] at h
    repeat' split at h
    all_goals cases h
    all_goals exact .primitive

theorem type?_eq_none_iff : type? name es = none ↔ isName name = false := by
  by_cases hw : name ∈ wrappers
  case pos => simp [isName, type?_wrapper hw]
  by_cases hc : name ∈ collections
  case pos => simp [isName, type?_collection hc]
  case neg =>
    have h (es) : type? name es = type? name [] := by
      simp only [type?, List.contains_eq_mem, hw, hc, decide_false, Bool.false_eq_true, if_false]
    simp [isName, h es]

end Builtin

-- A path that can refer to a declaration: a lone name, or one behind `self`. In front of `self` a double
-- colon makes no difference.
def IsLocal (leading : Bool) (qualifier : List String) : Prop :=
  leading = false ∧ qualifier = [] ∨ qualifier = ["self"]

def IsRooted (qualifier : List String) : Prop :=
  ∃ root ∈ Builtin.roots, qualifier.head? = some root

namespace Scope

variable {s : Scope} {site : Site} {position : List Nat} {f : Frame} {t u : TypeTree}

theorem pathType_local (h : IsLocal leading qualifier) :
    s.pathType leading qualifier name es = s.localType name es := by
  obtain ⟨rfl, rfl⟩ | rfl := h <;> rfl

theorem pathType_rooted (h : IsRooted qualifier) : s.pathType leading qualifier name es =
    (Builtin.type? name es).getD (.unknown (pathText qualifier name)) := by
  obtain ⟨root, hr, hh⟩ := h
  cases qualifier <;> cases hh
  simp only [Builtin.roots, List.mem_cons, List.not_mem_nil, or_false] at hr
  rcases hr with rfl | rfl | rfl <;> rfl

theorem pathType_foreign (hl : ¬IsLocal leading qualifier) (hr : ¬IsRooted qualifier) :
    s.pathType leading qualifier name es = .unknown (pathText qualifier name) := by
  unfold pathType
  split
  case h_1 => cases leading <;> simp_all [IsLocal, pathText]
  case h_2 => exact absurd (.inr rfl) hl
  case h_3 root _ _ =>
    have hc : root ∉ Builtin.roots := by simpa [IsRooted] using hr
    simp [hc]

-- A path is a reference: `Self` to what it stands for, and any other local path to the declaration of its
-- name, unless this is hidden.
inductive Refers (s : Scope) : TypeTree → String → Prop
  | self (hl : IsLocal leading qualifier) (hp : "Self" ∉ s.typeParams) (hn : s.selfName = some n) :
    Refers s (.path leading qualifier "Self" applied args) n
  | name (hl : IsLocal leading qualifier) (hp : n ∉ s.typeParams) (hs : n ≠ "Self")
    (hb : Builtin.isName n = false) : Refers s (.path leading qualifier n applied args) n

-- A path is read as a builtin type if it has the name of one.
def ReadsBuiltin (s : Scope) (leading : Bool) (qualifier : List String) (name : String) : Prop :=
  IsLocal leading qualifier ∧ name ∉ s.typeParams ∨ IsRooted qualifier

theorem pathType_builtin (hr : s.ReadsBuiltin leading qualifier name) (ht : Builtin.type? name es = some e) :
    s.pathType leading qualifier name es = e := by
  cases hr
  case inl h =>
    have hs : name ≠ "Self" := by
      rintro rfl
      cases ht
    simp [pathType_local h.left, localType, h.right, hs, ht]
  case inr h => rw [pathType_rooted h, ht, Option.getD_some]

-- All that a path can stand for.
inductive Reading (s : Scope) (leading : Bool) (qualifier : List String) (name : String) (applied : Bool)
    (args : List TypeTree) : TypeExpr → Prop
  | named (h : s.Refers (.path leading qualifier name applied args) n) :
    Reading s leading qualifier name applied args (.named n)
  | builtin (hr : s.ReadsBuiltin leading qualifier name) (h : Builtin.Reading name (args.map s.lower) e) :
    Reading s leading qualifier name applied args e
  | unknown : Reading s leading qualifier name applied args (.unknown text)

theorem lower_path : s.lower (.path leading qualifier name applied args) =
    s.pathType leading qualifier name (args.map s.lower) := by
  rw [lower, lowerAll_eq]

theorem reading_path : s.Reading leading qualifier name applied args
    (s.lower (.path leading qualifier name applied args)) := by
  rw [lower_path]
  by_cases hl : IsLocal leading qualifier
  case pos =>
    rw [pathType_local hl, localType]
    split
    case isTrue => exact .unknown
    case isFalse hp =>
      replace hp : name ∉ s.typeParams := by simpa using hp
      split
      case isTrue hs =>
        subst hs
        cases hn : s.selfName
        case none => exact .unknown
        case some => exact .named (.self hl hp hn)
      case isFalse hs =>
        cases ht : Builtin.type? name (args.map s.lower)
        case none => exact .named (.name hl hp hs (Builtin.type?_eq_none_iff.mp ht))
        case some => exact .builtin (.inl ⟨hl, hp⟩) (Builtin.reading_of_type? ht)
  by_cases hr : IsRooted qualifier
  case pos =>
    rw [pathType_rooted hr]
    cases ht : Builtin.type? name (args.map s.lower)
    case none => exact .unknown
    case some => exact .builtin (.inr hr) (Builtin.reading_of_type? ht)
  case neg =>
    rw [pathType_foreign hl hr]
    exact .unknown

theorem lower_of_refers (h : s.Refers t n) : s.lower t = .named n := by
  cases h
  case self hl hp hn    => simp [lower_path, pathType_local hl, localType, hp, hn]
  case name hl hp hs hb =>
    have ht {es} : Builtin.type? n es = none := Builtin.type?_eq_none_iff.mpr hb
    simp [lower_path, pathType_local hl, localType, hp, hs, ht]

theorem Refers.isName_eq_false (h : s.Refers t n) : t.isName "str" = false := by
  cases h
  case self    => exact isName_path (by decide)
  case name hb =>
    have hn : n ≠ "str" := by
      rintro rfl
      exact absurd hb (by decide)
    exact isName_path hn

theorem lower_path_eq_named_iff : s.lower (.path leading qualifier name applied args) = .named n ↔
    s.Refers (.path leading qualifier name applied args) n where
  mpr := lower_of_refers
  mp h := by
    have hr : s.Reading leading qualifier name applied args (.named n) := h ▸ reading_path
    cases hr
    case named h     => exact h
    case builtin _ h => cases h

theorem lower_wrapper (hr : s.ReadsBuiltin leading qualifier name) (hw : name ∈ Builtin.wrappers) :
    s.lower (.path leading qualifier name applied (t :: ts)) = .wrapper (s.lower t) := by
  rw [lower_path]
  exact pathType_builtin hr (Builtin.type?_wrapper hw)

theorem lower_collection (hr : s.ReadsBuiltin leading qualifier name) (hc : name ∈ Builtin.collections) :
    s.lower (.path leading qualifier name applied ts) = .dynamic name (ts.map s.lower) := by
  rw [lower_path]
  exact pathType_builtin hr (Builtin.type?_collection hc)

theorem lower_tuple (h : ts ≠ []) : s.lower (.tuple ts) = .tuple (ts.map s.lower) := by
  cases ts
  case nil  => contradiction
  case cons => rw [lower, lowerAll_eq, List.map_cons]

-- Whether lowering looks into a frame: it does, up to the arguments of paths. Of these it looks at the content
-- of a wrapper and at all that a collection has.
def Enters (s : Scope) : Frame → Prop
  | .argument leading qualifier name _ before _ => s.ReadsBuiltin leading qualifier name ∧
    (name ∈ Builtin.wrappers ∧ before = [] ∨ name ∈ Builtin.collections)
  | _                                           => True

-- Whether lowering comes to a place.
def ComesTo (s : Scope) (site : Site) : Prop :=
  ∀ f ∈ site, s.Enters f

-- The name of the text type is not around anything that lowering looks into.
theorem isName_frame (he : s.Enters f) : (f.fill t).isName "str" = false := by
  cases f
  case argument leading qualifier name applied before after =>
    have hn : name ≠ "str" := by
      rintro rfl
      cases he.right
      case inl h => exact absurd h.left (by decide)
      case inr h => exact absurd h (by decide)
    exact isName_path hn
  all_goals rfl

theorem isName_fill (hc : s.ComesTo site) (hn : t.isName "str" = false) :
    (site.fill t).isName "str" = false := by
  cases site
  case nil  => exact hn
  case cons => exact isName_frame (hc _ (by simp))

-- What is put into a frame counts by what it is lowered to. Only behind a reference it also matters whether
-- it is the name of the text type.
theorem lower_frame (h : s.lower t = s.lower u)
    (hn : f = .referent → t.isName "str" = u.isName "str") : s.lower (f.fill t) = s.lower (f.fill u) := by
  cases f
  case referent     => simp [Frame.fill, lower, h, hn rfl]
  case tupleElement => simp [Frame.fill, lower_tuple, h]
  case argument     => simp [Frame.fill, lower_path, h]
  all_goals simp [Frame.fill, lower, h]

theorem lower_fill (h : s.lower t = s.lower u)
    (hn : site.getLast? = some .referent → t.isName "str" = u.isName "str") :
    s.lower (site.fill t) = s.lower (site.fill u) := by
  induction site
  case nil => exact h
  case cons f site ih =>
    cases site
    case nil  => exact lower_frame h fun hf => hn (by simp [hf])
    case cons => exact lower_frame (ih (by simpa using hn)) fun _ => Frame.isName_fill

-- What lowering makes of a part that it comes to is in what it makes of the whole.
theorem at?_frame (he : s.Enters f) (hn : t.isName "str" = false) :
    (s.lower (f.fill t)).at? (f.position ++ position) = (s.lower t).at? position := by
  cases f
  case referent    => simp [Frame.fill, Frame.position, lower, hn, TypeExpr.at?, TypeExpr.parts]
  case tupleElement => simp [Frame.fill, Frame.position, lower_tuple, TypeExpr.at?, TypeExpr.parts]
  case argument    =>
    obtain ⟨hr, ⟨hw, rfl⟩ | hc⟩ := he
    case inl =>
      simp [Frame.fill, Frame.position, lower_wrapper hr hw, TypeExpr.at?, TypeExpr.parts]
    case inr =>
      simp [Frame.fill, Frame.position, lower_collection hr hc, TypeExpr.at?, TypeExpr.parts]
  all_goals simp [Frame.fill, Frame.position, lower, TypeExpr.at?, TypeExpr.parts]

theorem at?_fill (hc : s.ComesTo site) (hn : t.isName "str" = false) :
    (s.lower (site.fill t)).at? site.position = some (s.lower t) := by
  induction site
  case nil => rfl
  case cons f site ih =>
    have ⟨he, hc⟩ := List.forall_mem_cons.mp hc
    exact (at?_frame he (isName_fill hc hn)).trans (ih hc)

end Scope
end CollectionPlan
