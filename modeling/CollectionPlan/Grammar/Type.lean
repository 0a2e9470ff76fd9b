import CollectionPlan.Grammar.Generics

namespace CollectionPlan.Grammar.Type

def abi : Parser Bool :=
  whenSees (atWord "extern") do
    word "extern"
    if ← sees atTextLiteral then textLiteral

def result (r : Rules) (plus : Bool) : Parser Unit := do
  if ← op? "->" then discard (r.type plus)

namespace Function

def atName (ts : List Placed) : Bool :=
  atIdent ts || atWord "_" ts

def atMutSelf (ts : List Placed) : Bool :=
  atWord "mut" ts && atWord "self" (second ts)

-- A parameter; the receiver of a method can stand first.
def param (r : Rules) (first : Bool) : Parser Unit := do
  let mutSelf ← sees fun ts => first && atMutSelf ts
  if mutSelf then word "mut"
  let atSelf ← sees fun ts => first && atWord "self" ts
  let named ← sees fun ts => (atName ts || atSelf) && atColon (second ts)
  if named then
    discard anyWord
    op ":"
  if ← sees fun ts => first && !(named && atSelf) && atMutSelf ts then
    word "mut"
    word "self"
  else if mutSelf && !named then word "self"
  else discard (r.type true)

def atVariadic (ts : List Placed) : Bool :=
  atOp "..." ts ||
    (atName ts && atOp ":" (second ts) && atOp "..." (third ts))

-- Any number of further arguments.
def variadic : Parser Unit := do
  if ← sees atName then
    discard anyWord
    op ":"
  op "..."
  discard (op? ",")

def params (r : Rules) (first : Bool) : Nat → Parser Unit
  | 0        => return
  | fuel + 1 => do
    if ← sees atEnd then return
    discard (Attributes.outer r)
    if ← sees atVariadic then
      variadic
      return
    param r first
    if ← sees atEnd then return
    op ","
    params r false fuel

def read (r : Rules) : Parser Unit := do
  discard (word? "unsafe")
  discard abi
  word "fn"
  inside .parenthesis do params r true (← ahead).length
  result r false

end Function

-- A sum of bounds whose first one was read.
def restOfSum (r : Rules) : Parser Nat := do
  let rest ← repeatWhile (atOp "+") do
    op "+"
    r.bound false false
  return rest.length + 1

-- Whether a type in parentheses can be the first of a sum of bounds.
def isBound : TypeTree → Bool
  | .path ..        => true
  | .object false 1 => true
  | _               => false

-- What stands between parentheses.
inductive Parenthesized
  | tree (t : TypeTree)
  -- The first of a sum of bounds, with the others still to come.
  | bound
  -- A type alone.
  | single (t : TypeTree)

def parenthesized (r : Rules) : Parser Parenthesized := do
  if ← sees atEnd then return .tree (.tuple [])
  if ← sees atLifetime then
    let bounds ← Bound.object r true false false (← ahead)
    return .tree (.paren (.object false bounds))
  if ← sees (atOp "?") then
    Bound.trait r false
    return .bound
  let first ← r.type true
  if ← op? "," then
    return .tree (.tuple (first :: (← list (r.type true))))
  return .single first

def ofParenthesis (r : Rules) (plus : Bool) : Parser TypeTree := do
  match ← inside .parenthesis (parenthesized r) with
  | .tree t   => return t
  | .bound    => return .object false (← restOfSum r)
  | .single t =>
    if plus && isBound t && (← sees (atOp "+")) then
      return .object false (← restOfSum r)
    return .paren t

-- Bounds behind a path that turned out to be the first of them.
def boundsBehind (r : Rules) (plus : Bool) : Nat → Parser Nat
  | 0        => return 0
  | fuel + 1 => do
    if !(plus && (← sees (atOp "+"))) then return 0
    op "+"
    if !(← sees (Bound.atStart false)) then return 1
    discard (r.bound false false)
    return (← boundsBehind r plus fuel) + 1

def ofPath (r : Rules) (plus general : Bool) : Parser TypeTree := do
  let (p, tokens) ← capture (qualifiedPath r .type)
  if p.qualified then return .other tokens
  if p.isPlain && (← sees atMacroMark) then
    let (_, rest) ← capture macroRest
    return .other (tokens ++ rest)
  if general || (plus && (← sees (atOp "+"))) then
    return .object false ((← boundsBehind r plus (← ahead).length) + 1)
  match p.tree? with
  | some t => return t
  | none   => fail

-- A star makes it a form of its own.
def ofDyn (r : Rules) (plus : Bool) : Parser TypeTree := do
  let start ← ahead
  word "dyn"
  let starred ← op? "*"
  let bounds ← Bound.object r plus false false start
  if starred then return .other (← since start)
  return .object true bounds

def ofBracket (r : Rules) : Parser TypeTree :=
  inside .bracket do
    let elem ← r.type true
    if ← op? ";" then
      discard (r.expr true)
      return .array elem
    return .slice elem

def ofStar (r : Rules) : Parser TypeTree := do
  op "*"
  if ← sees (atAnyWord ["const", "mut"]) then discard anyWord else fail
  return .rawPointer (← r.type false)

def ofAnd (r : Rules) : Parser TypeTree := do
  op "&"
  discard lifetime?
  discard (word? "mut")
  return .reference (← r.type false)

def ofToken (p : Parser α) : Parser TypeTree := do
  let (_, tokens) ← capture p
  return .other tokens

def atFunction (ts : List Placed) : Bool :=
  atAnyWord ["fn", "unsafe", "extern"] ts

def atPath (ts : List Placed) : Bool :=
  atIdent ts || atPathWord ts || atAnyOp ["::", "<"] ts

-- What can follow lifetimes that a type is general in.
def atGeneral (ts : List Placed) : Bool :=
  atIdent ts || atFunction ts || atPathWord ts

def read (r : Rules) (plus : Bool) : Parser TypeTree := do
  let general ← forLifetimes r
  if general && !(← sees atGeneral) then fail
  let ts ← ahead
  if atGroup .parenthesis ts then ofParenthesis r plus
  else if atFunction ts then
    Function.read r
    return .function
  else if atPath ts then ofPath r plus general
  else if atWord "dyn" ts then ofDyn r plus
  else if atGroup .bracket ts then ofBracket r
  else if atOp "*" ts then ofStar r
  else if atOp "&" ts then ofAnd r
  else if atOp "!" ts then ofToken (op "!")
  else if atWord "impl" ts then
    word "impl"
    return .object true (← Bound.object r plus true true ts)
  else if atWord "_" ts then ofToken (word "_")
  else if atLifetime ts then
    return .object false (← Bound.object r true false false ts)
  else fail

end CollectionPlan.Grammar.Type
