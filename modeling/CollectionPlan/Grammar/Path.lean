import CollectionPlan.Grammar.Rules

namespace CollectionPlan.Grammar

structure Segment where
  name    : String
  applied : Bool := false
  args    : List TypeTree := []
deriving Repr

structure Path where
  -- Behind a type in angle brackets.
  qualified : Bool
  leading   : Bool
  segments  : List Segment
deriving Repr

namespace Path

def isPlain (p : Path) : Bool :=
  p.segments.all (!·.applied)

def tree? (p : Path) : Option TypeTree := do
  let last ← p.segments.getLast?
  return .path p.leading (p.segments.dropLast.map (·.name)) last.name last.applied last.args

end Path

-- In an expression type arguments need a double colon in front of them.
inductive PathStyle
  | type
  | expr
deriving DecidableEq

-- Words that can stand in a path though they are no identifiers.
def pathWords : List String :=
  ["super", "self", "Self", "crate"]

def atPathWord (ts : List Placed) : Bool :=
  atAnyWord pathWords ts

def modPathStart (ts : List Placed) : Bool :=
  atIdent ts || atPathWord ts

-- A path without type arguments: whether it starts with a double colon, and its segments.
def modPath : Parser (Bool × List Word) := do
  let leading ← op? "::"
  let first ← if ← sees modPathStart then anyWord else fail
  let rest ← repeatWhile (atOp "::") do
    op "::"
    if ← sees modPathStart then anyWord else fail
  return (leading, first :: rest)

namespace Argument

inductive Kind
  | lifetime
  | type (t : TypeTree)
  | other
deriving Repr

def Kind.type? : Kind → Option TypeTree
  | type t => some t
  | _      => none

def Kind.isLifetime : Kind → Bool
  | lifetime => true
  | _        => false

-- A constant that needs no parentheses.
def const (r : Rules) : Parser Unit := do
  if ← sees atLiteral then literal
  else if ← sees atIdent then discard ident
  else if ← sees (atGroup .brace) then inside .brace r.body
  else fail

def isPlainName : TypeTree → Bool
  | .path false [] _ _ _ => true
  | _                    => false

def atConst (ts : List Placed) : Bool :=
  atLiteral ts || atGroup .brace ts

def read (r : Rules) : Parser Kind := do
  if ← sees fun ts => atLifetime ts && !atOp "+" (second ts) then
    lifetime
    return .lifetime
  if ← sees atConst then
    const r
    return .other
  let t ← r.type true
  if isPlainName t then
    if ← op? "=" then
      if ← sees atConst then const r else discard (r.type true)
      return .other
    if ← op? ":" then
      discard (chained "+" (atAnyOp [",", ">"]) (r.bound false true))
      return .other
  return .type t

end Argument

-- An argument, as it is written, with a comma behind it or not.
structure Argument where
  kind   : Argument.Kind
  tokens : List Token
  comma  : Bool
deriving Repr

namespace Argument

def comma' : List Token := Token.operator [',']

def ownTokens (a : Argument) : List Token :=
  a.tokens ++ (if a.comma then comma' else [])

-- Behind an argument without a comma a comma is put in.
def written (closed : Bool) : List Argument → List Token
  | []      => []
  | a :: as => (if closed then [] else comma') ++ a.ownTokens ++ written a.comma as

-- Lifetimes are written in front of all other arguments.
def reordered (as : List Argument) : List Token :=
  let lifetimes := as.filter (·.kind.isLifetime)
  let others := as.filter (!·.kind.isLifetime)
  lifetimes.flatMap ownTokens ++ written (lifetimes.getLast?.all (·.comma)) others

def readAll (r : Rules) : Nat → Parser (List Argument)
  | 0        => return []
  | fuel + 1 => do
    if ← sees (atOp ">") then return []
    let (kind, tokens) ← capture (read r)
    if ← sees (atOp ">") then return [{ kind, tokens, comma := false }]
    op ","
    let as ← readAll r fuel
    return { kind, tokens, comma := true } :: as

-- Arguments in angle brackets.
def list (r : Rules) : Parser (List TypeTree) := do
  op "<"
  let as ← writtenAs reordered do readAll r (← ahead).length
  op ">"
  return as.filterMap (·.kind.type?)

end Argument

def atArguments (style : PathStyle) (ts : List Placed) : Bool :=
  (style = .type && atOp "<" ts && !atOp "<=" ts && !atOp "<<=" ts)
    || (afterOperator? [':', ':'] ts).any (atOp "<")

def segment (r : Rules) (style : PathStyle) : Parser Segment := do
  if ← sees (atAnyWord ["super", "self", "crate", "try"]) then
    return { name := (← anyWord).text }
  let word ← if ← sees (atWord "Self") then anyWord else (·.toWord) <$> ident
  if ← sees (atArguments style) then
    discard (op? "::")
    return { name := word.text, applied := true, args := ← Argument.list r }
  return { name := word.text }

-- A double colon in front of a parenthesis belongs to what follows the path.
def atFurtherSegment (ts : List Placed) : Bool :=
  (afterOperator? [':', ':'] ts).any (!atGroup .parenthesis ·)

def path (r : Rules) (style : PathStyle) : Parser Path := do
  let leading ← op? "::"
  let first ← segment r style
  let rest ← repeatWhile atFurtherSegment do
    op "::"
    segment r style
  return { qualified := false, leading, segments := first :: rest }

-- A path that can start with a type in angle brackets.
def qualifiedPath (r : Rules) (style : PathStyle) : Parser Path := do
  if ← sees (atOp "<") then
    op "<"
    discard (r.type true)
    if ← word? "as" then discard (path r .type)
    op ">"
    op "::"
    let first ← segment r style
    let rest ← repeatWhile (atOp "::") do
      op "::"
      segment r style
    return { qualified := true, leading := false, segments := first :: rest }
  path r style

-- The rest of a macro call behind its path.
def macroRest : Parser Delimiter := do
  op "!"
  let (d, _) ← anyGroup
  return d

def atMacroMark (ts : List Placed) : Bool :=
  atOp "!" ts && !atOp "!=" ts

end CollectionPlan.Grammar
