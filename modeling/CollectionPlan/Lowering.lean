import CollectionPlan.Grammar.Tree
import CollectionPlan.TypeExpr
import CollectionPlan.Token.TextLiteral

namespace CollectionPlan

-- The names that mean something of their own inside a declaration.
structure Scope where
  -- What `Self` refers to.
  selfName   : Option String := none
  typeParams : List String := []
deriving Repr

namespace Builtin

def integers : List String :=
  ["i8", "i16", "i32", "i64", "i128", "isize", "u8", "u16", "u32", "u64", "u128", "usize"]

def floats : List String :=
  ["f32", "f64"]

-- Types that own a single value, whose equality is that of the value.
def wrappers : List String :=
  ["Box", "Rc", "Arc", "Option"]

-- Growable and keyed collections, which are never comparable.
def collections : List String :=
  ["Vec", "VecDeque", "LinkedList", "BinaryHeap", "HashMap", "HashSet", "BTreeMap", "BTreeSet"]

-- Where a qualified path has to start if it is to name a builtin type.
def roots : List String :=
  ["std", "core", "alloc"]

-- What a name stands for unless it is declared.
def type? (name : String) (args : List TypeExpr) : Option TypeExpr :=
  if integers.contains name then some (.primitive .int)
  else if floats.contains name then some (.primitive .float)
  else if name = "bool" then some (.primitive .bool)
  else if name = "char" then some (.primitive .char)
  else if name = "str" || name = "String" then some (.primitive .str)
  else if wrappers.contains name then some (args.head?.elim (.unknown name) .wrapper)
  else if collections.contains name then some (.dynamic name args)
  else none

end Builtin

namespace Scope

-- A type parameter hides `Self`, which hides the builtin types, which hide declarations.
def localType (s : Scope) (name : String) (args : List TypeExpr) : TypeExpr :=
  if s.typeParams.contains name then .unknown name
  else if name = "Self" then s.selfName.elim (.unknown name) .named
  else (Builtin.type? name args).getD (.named name)

def pathText (qualifier : List String) (name : String) : String :=
  "::".intercalate (qualifier ++ [name])

-- Only a lone name and one behind `self` can refer to a declaration.
def pathType (s : Scope) (leading : Bool) (qualifier : List String) (name : String)
    (args : List TypeExpr) : TypeExpr :=
  match qualifier with
  | []        => if leading then .unknown name else s.localType name args
  | ["self"]  => s.localType name args
  | root :: _ =>
    let foreign := TypeExpr.unknown (pathText qualifier name)
    if Builtin.roots.contains root then (Builtin.type? name args).getD foreign else foreign

mutual

def lower (s : Scope) : TypeTree → TypeExpr
  | .path leading qualifier name _ args => s.pathType leading qualifier name (s.lowerAll args)
  | .reference referent                 =>
    if referent.isName "str" then .primitive .str else .pointer (s.lower referent)
  | .rawPointer pointee                 => .pointer (s.lower pointee)
  | .array elem                         => .array (s.lower elem)
  | .slice elem                         => .dynamic "slice" [s.lower elem]
  | .tuple []                           => .unit
  | .tuple (elem :: elems)              => .tuple (s.lower elem :: s.lowerAll elems)
  | .paren inner                        => s.lower inner
  | .function | .object _ _             => .function
  | .other tokens                       => .unknown (Token.render tokens)

def lowerAll (s : Scope) : List TypeTree → List TypeExpr
  | []      => []
  | t :: ts => s.lower t :: s.lowerAll ts

end

theorem lowerAll_eq {s : Scope} : s.lowerAll ts = ts.map s.lower := by
  induction ts <;> simp_all [lowerAll]

end Scope

namespace Attribute

-- The text of all attributes but documentation.
def rawTag (attrs : List Attribute) : String :=
  " ".intercalate ((attrs.filter (!·.isDoc)).map text)

-- The text of an attribute that is one line of documentation or more.
def docLine? (a : Attribute) : Option String :=
  if !a.isDoc then none
  else match a.body with
    | .value [.literal l] => TextLiteral.value? l
    | _                   => none

def docText (attrs : List Attribute) : String :=
  "\n".intercalate (attrs.filterMap docLine?)

end Attribute

namespace TypeItem

def scope (i : TypeItem) : Scope where
  selfName   := some i.name
  typeParams := i.typeParams

-- There is no `Self` in an alias.
def aliasScope (i : TypeItem) : Scope where
  typeParams := i.typeParams

def lowerField (s : Scope) (index : Nat) (f : Field) : FieldDecl where
  name   := f.name.getD (toString index)
  type   := s.lower f.type
  rawTag := Attribute.rawTag f.attrs

def lowerFields (s : Scope) (fields : List Field) : List FieldDecl :=
  fields.mapIdx (lowerField s)

def lower (i : TypeItem) : Declaration where
  name := i.name
  body :=
    match i.body with
    | .alias target  => .alias (i.aliasScope.lower target)
    | .struct fields => .struct (lowerFields i.scope fields)
    | .enum variants =>
      .enum (variants.flatMap fun fields => fields.map fun f => i.scope.lower f.type)

-- The declaration that an item makes. One that declares no type makes none.
def lower? (item : Option TypeItem) : Option Declaration :=
  item.map lower

theorem filterMap_lower? {items : List (Option TypeItem)} :
    items.filterMap lower? = (items.filterMap id).map lower :=
  List.map_filterMap.symm

def doc (i : TypeItem) : String :=
  Attribute.docText i.attrs

end TypeItem
end CollectionPlan
