import CollectionPlan.Grammar.Tree

namespace CollectionPlan

-- The elements of a tuple and the arguments of a path come with a hypothesis each.
@[induction_eliminator]
theorem TypeTree.induct {motive : TypeTree → Prop}
    (path       : ∀ leading qualifier name applied args, (∀ t ∈ args, motive t) →
      motive (.path leading qualifier name applied args))
    (reference  : ∀ referent, motive referent → motive (.reference referent))
    (rawPointer : ∀ pointee, motive pointee → motive (.rawPointer pointee))
    (array      : ∀ elem, motive elem → motive (.array elem))
    (slice      : ∀ elem, motive elem → motive (.slice elem))
    (tuple      : ∀ elems, (∀ t ∈ elems, motive t) → motive (.tuple elems))
    (paren      : ∀ inner, motive inner → motive (.paren inner))
    (function   : motive .function)
    (object     : ∀ marked bounds, motive (.object marked bounds))
    (other      : ∀ tokens, motive (.other tokens)) :
    ∀ t, motive t :=
  @TypeTree.rec motive (fun ts => ∀ t ∈ ts, motive t)
    path reference rawPointer array slice tuple paren function object other
    (by simp) (by simp_all)

namespace TypeTree

mutual

-- Whether two types are written alike, part by part.
def same : TypeTree → TypeTree → Bool
  | path l q n a ts, t' => match t' with
    | path l' q' n' a' ts' => l = l' && q = q' && n = n' && a = a' && allSame ts ts'
    | _                    => false
  | reference t, t'     => match t' with | reference t' => t.same t' | _ => false
  | rawPointer t, t'    => match t' with | rawPointer t' => t.same t' | _ => false
  | array t, t'         => match t' with | array t' => t.same t' | _ => false
  | slice t, t'         => match t' with | slice t' => t.same t' | _ => false
  | tuple ts, t'        => match t' with | tuple ts' => allSame ts ts' | _ => false
  | paren t, t'         => match t' with | paren t' => t.same t' | _ => false
  | function, t'        => match t' with | function => true | _ => false
  | object m b, t'      => match t' with | object m' b' => m = m' && b = b' | _ => false
  | other tokens, t'    => match t' with | other tokens' => tokens = tokens' | _ => false

def allSame : List TypeTree → List TypeTree → Bool
  | [], []             => true
  | t :: ts, t' :: ts' => t.same t' && allSame ts ts'
  | _, _               => false

end

theorem allSame_iff (h : ∀ t ∈ ts, ∀ t', same t t' ↔ t = t') : allSame ts ts' ↔ ts = ts' := by
  induction ts generalizing ts' <;> cases ts' <;> simp_all [allSame]

theorem same_iff {t t' : TypeTree} : t.same t' ↔ t = t' := by
  induction t generalizing t'
  case path ih | tuple ih => cases t' <;> simp [same, allSame_iff ih, and_assoc]
  all_goals cases t' <;> simp_all [same]

instance : DecidableEq TypeTree :=
  fun _ _ => decidable_of_iff _ same_iff

deriving instance DecidableEq for Field, TypeItem.Body, TypeItem

-- What stands around a part of a type, one level up.
inductive Frame
  | referent
  | pointee
  | element
  | sliceElement
  | tupleElement (before after : List TypeTree)
  | parentheses
  | argument (leading : Bool) (qualifier : List String) (name : String) (applied : Bool)
      (before after : List TypeTree)

-- Where a part stands in a type: all that is around it, from the outside to the inside.
abbrev Site := List Frame

def Frame.fill : Frame → TypeTree → TypeTree
  | referent, t                                            => .reference t
  | pointee, t                                             => .rawPointer t
  | element, t                                             => .array t
  | sliceElement, t                                        => .slice t
  | tupleElement before after, t                           => .tuple (before ++ t :: after)
  | parentheses, t                                         => .paren t
  | argument leading qualifier name applied before after, t =>
    .path leading qualifier name applied (before ++ t :: after)

def Site.fill (site : Site) (t : TypeTree) : TypeTree :=
  site.foldr Frame.fill t

-- The way down to a part if parentheses are left out.
def Frame.position : Frame → List Nat
  | parentheses                                             => []
  | referent | pointee | element | sliceElement             => [0]
  | tupleElement before _ | argument _ _ _ _ before _       => [before.length]

def Site.position (site : Site) : List Nat :=
  site.flatMap Frame.position

variable {site outer : Site} {f : Frame} {t u : TypeTree}

@[simp]
theorem Site.fill_nil : Site.fill [] t = t :=
  rfl

@[simp]
theorem Site.fill_cons : Site.fill (f :: site) t = f.fill (site.fill t) :=
  rfl

theorem Site.fill_append : Site.fill (outer ++ site) t = outer.fill (site.fill t) :=
  List.foldr_append

theorem isName_path (h : name ≠ n) : (path leading qualifier name applied args).isName n = false := by
  unfold isName
  split
  case h_1 he =>
    cases he
    simpa using h
  case h_2 => rfl

-- A type with a part to look into is not a lone name, or it is one whatever the part is.
theorem Frame.isName_fill : (f.fill t).isName n = (f.fill u).isName n := by
  cases f
  case argument leading qualifier _ applied _ _ => cases leading <;> cases qualifier <;> cases applied <;> rfl
  all_goals rfl

end TypeTree
end CollectionPlan
