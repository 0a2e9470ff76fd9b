import CollectionPlan.Grammar.Source
import CollectionPlan.Lowering
import CollectionPlan.Universe

namespace CollectionPlan

-- The declarations that can refer to each other. No name is declared twice.
structure TypeModel where
  decls : List Declaration := []
  nodup : (decls.map (·.name)).Nodup := by simp

namespace TypeModel

def empty : TypeModel := {}

def names (m : TypeModel) : List String :=
  m.decls.map (·.name)

def find? (m : TypeModel) (name : String) : Option Declaration :=
  m.decls.find? (·.name = name)

def declares (m : TypeModel) (name : String) : Bool :=
  (m.find? name).isSome

theorem declares_iff {m : TypeModel} : m.declares name ↔ name ∈ m.names := by
  simp [declares, find?, names]

-- The first declaration of a name stays.
def declare (m : TypeModel) (d : Declaration) : TypeModel :=
  if h : d.name ∈ m.names then m
  else {
    decls := m.decls ++ [d]
    nodup := by
      simp only [List.map_append, List.map_cons, List.map_nil, List.nodup_append, List.mem_singleton]
      refine ⟨m.nodup, by simp, ?_⟩
      intro a ha b hb
      subst hb
      exact fun e => h (e ▸ ha) }

def declareAll (m : TypeModel) (ds : List Declaration) : TypeModel :=
  ds.foldl declare m

def declareItems (m : TypeModel) (items : List (Option TypeItem)) : TypeModel :=
  m.declareAll (items.filterMap TypeItem.lower?)

-- The model of a source text on its own.
def ofSource (source : String) : Except Position TypeModel :=
  return empty.declareItems (← Grammar.items source)

def size (m : TypeModel) : Nat :=
  m.decls.length

-- The target of a declared alias.
def alias? (m : TypeModel) (name : String) : Option TypeExpr :=
  match m.find? name with
  | some ⟨_, .alias target⟩ => some target
  | _                       => none

def missing? (m : TypeModel) (e : TypeExpr) : Option String :=
  e.names.find? (!m.declares ·)

def checkDeclared (m : TypeModel) (e : TypeExpr) : Except ResolveError Unit :=
  match m.missing? e with
  | some name => .error (.undeclared name)
  | none      => .ok ()

-- Follows aliases, none of them twice, so there are at most as many steps as declarations.
def follow (m : TypeModel) : Nat → List String → TypeExpr → Except ResolveError TypeExpr
  | fuel, seen, .named name =>
    if !m.declares name then .error (.undeclared name)
    else match m.alias? name with
      | none        => .ok (.named name)
      | some target =>
        if seen.contains name then .error (.aliasCycle name)
        else match fuel with
          | 0        => .error (.aliasCycle name)
          | fuel + 1 => do
            m.checkDeclared target
            m.follow fuel (name :: seen) target
  | _, _, e => .ok e

-- The representation that is left when all aliases at the top of a type are replaced.
def underlying (m : TypeModel) (e : TypeExpr) : Except ResolveError TypeExpr :=
  m.follow m.size [] e

-- Back on a declaration that is being checked the others decide, unless it is an alias.
def comparableName (m : TypeModel) : Nat → List String → String → Bool
  | fuel, visiting, name =>
    match m.find? name with
    | none   => false
    | some d =>
      if visiting.contains name then !d.isAlias
      else match fuel with
        | 0        => !d.isAlias
        | fuel + 1 => d.members.all (·.comparableWith (m.comparableName fuel (name :: visiting)))

-- Whether equality is defined for a type and all that it is made of.
def comparable (m : TypeModel) (e : TypeExpr) : Bool :=
  e.comparableWith (m.comparableName m.size [])

def numeric (m : TypeModel) (e : TypeExpr) : Bool :=
  match m.underlying e with
  | .ok u    => u.isNumeric
  | .error _ => false

def ordered (m : TypeModel) (e : TypeExpr) : Bool :=
  match m.underlying e with
  | .ok u    => u.isOrdered
  | .error _ => false

end TypeModel

-- A type that was asked for by its name, with its underlying representation.
structure TypeHandle where
  name       : String
  underlying : TypeExpr
deriving Repr

namespace TypeModel

-- A type resolves if it is modelled and declared all the way down its aliases.
def resolveExpr (m : TypeModel) (name : String) (e : TypeExpr) : Except ResolveError TypeHandle := do
  match e.unknown? with
  | some text => throw (.undeclared text)
  | none      => pure ()
  m.checkDeclared e
  match ← m.underlying e with
  | .unknown text => throw (.undeclared text)
  | u             => return { name, underlying := u }

def resolve (m : TypeModel) (name : String) : Except ResolveError TypeHandle :=
  match Grammar.type? name with
  | none      => .error (.malformed name)
  | some tree => m.resolveExpr name (({} : Scope).lower tree)

def traits (m : TypeModel) (h : TypeHandle) : Traits where
  numeric    := m.numeric h.underlying
  comparable := m.comparable h.underlying
  ordered    := m.ordered h.underlying

def fieldTags (m : TypeModel) (h : TypeHandle) : List FieldTag :=
  match h.underlying with
  | .named name => ((m.find? name).elim [] (·.fields)).map fun f => { name := f.name, rawTag := f.rawTag }
  | _           => []

def toUniverse (m : TypeModel) : Universe where
  Handle  := TypeHandle
  resolve := m.resolve
  traits  := m.traits
  fields  := m.fieldTags

end TypeModel
end CollectionPlan
