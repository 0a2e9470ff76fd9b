import CollectionPlan.Token.Basic

namespace CollectionPlan

-- A type as it is written, as far as its form matters.
inductive TypeTree
  -- The segments in front of the last one, the last one, and its type arguments. An empty list of
  -- arguments can still be written out.
  | path (leading : Bool) (qualifier : List String) (name : String) (applied : Bool)
      (args : List TypeTree)
  | reference (referent : TypeTree)
  | rawPointer (pointee : TypeTree)
  | array (elem : TypeTree)
  | slice (elem : TypeTree)
  | tuple (elems : List TypeTree)
  | paren (inner : TypeTree)
  | function
  -- A sum of bounds, with or without a word in front of it. A plus at its end counts as a bound.
  | object (marked : Bool) (bounds : Nat)
  -- All other types, as tokens.
  | other (tokens : List Token)
deriving Repr

namespace TypeTree

-- Whether a type is a lone name without arguments.
def isName (name : String) : TypeTree → Bool
  | path false [] last false _ => last = name
  | _                          => false

end TypeTree

inductive Attribute.Body
  | word
  | list (d : Delimiter) (content : List Token)
  | value (content : List Token)
deriving DecidableEq, Repr

-- An attribute in front of an item or a field.
structure Attribute where
  leading : Bool
  path    : List Word
  body    : Attribute.Body
deriving DecidableEq, Repr

namespace Attribute

def hasPath (a : Attribute) (name : String) : Bool :=
  !a.leading && a.path.map (·.text) = [name]

def isDoc (a : Attribute) : Bool :=
  a.hasPath "doc"

def pathTokens : List Word → List Token
  | []      => []
  | [s]     => [.ident s]
  | s :: ss => .ident s :: (Token.operator [':', ':'] ++ pathTokens ss)

def Body.tokens : Body → List Token
  | word           => []
  | list d content => .opening d :: content ++ [.closing d]
  | value content  => .punct '=' false :: content

def tokens (a : Attribute) : List Token :=
  [.punct '#' false, .opening .bracket] ++ (if a.leading then Token.operator [':', ':'] else [])
    ++ pathTokens a.path ++ a.body.tokens ++ [.closing .bracket]

def text (a : Attribute) : String :=
  Token.render a.tokens

end Attribute

structure Field where
  -- The fields of a tuple have no names.
  name  : Option String
  attrs : List Attribute
  type  : TypeTree
deriving Repr

inductive TypeItem.Body
  | alias (target : TypeTree)
  | struct (fields : List Field)
  -- The fields of each variant.
  | enum (variants : List (List Field))
deriving Repr

-- A declaration of a type as it is written.
structure TypeItem where
  ident      : Identifier
  typeParams : List String
  attrs      : List Attribute
  body       : TypeItem.Body
deriving Repr

def TypeItem.name (i : TypeItem) : String :=
  i.ident.text

end CollectionPlan
