import CollectionPlan.Grammar.Path
import CollectionPlan.Grammar.Attribute

-- A pattern answers with the place of its dots if it is a range that is open at an end.
namespace CollectionPlan.Grammar.Pattern

abbrev OpenRange := Option (List Placed)

def atBar (ts : List Placed) : Bool :=
  atOp "|" ts && !atOp "||" ts && !atOp "|=" ts

-- Alternatives; the first may have a bar in front of it.
def read (r : Rules) : Parser OpenRange := do
  let leading ← op? "|"
  let first ← r.pattern
  if !leading && !(← sees atBar) then return first
  discard <| repeatWhile atBar do
    op "|"
    r.pattern
  return none

def atBoundEnd (ts : List Placed) : Bool :=
  atEnd ts || atAnyOp ["|", "=", ",", ";"] ts || atColon ts || atWord "if" ts

-- A bound of a range, which may be missing.
def bound (r : Rules) : Parser Bool := do
  let ts ← ahead
  if atBoundEnd ts then return false
  if atLiteral ts then literal
  else if atIdent ts || atPathWord ts || atAnyOp ["::", "<"] ts then discard (qualifiedPath r .expr)
  else if atWord "const" ts then
    word "const"
    inside .brace r.body
  else fail
  return true

-- The dots of a range: whether they include the end.
def dots (three : Bool) : Parser Bool := do
  if ← op? "..=" then return true
  if ← sees (atOp "...") then
    if !three then fail
    op "..."
    return true
  op ".."
  return false

-- The rest of a range behind its lower bound.
def rangeFrom (r : Rules) : Parser OpenRange := do
  let start ← ahead
  let closed ← dots true
  if ← bound r then return none
  if closed then fail
  return some start

-- Dots without a lower bound: all that is left, or a range.
def rangeTo (r : Rules) : Parser OpenRange := do
  let start ← ahead
  let closed ← dots false
  if ← bound r then return some start
  if closed then fail
  return none

def element (r : Rules) : Parser Unit :=
  discard (read r)

def literalOrRange (r : Rules) : Parser OpenRange := do
  if !(← bound r) then fail
  if ← sees (atOp "..") then rangeFrom r else return none

def fieldPattern (r : Rules) : Parser Unit := do
  let boxed ← word? "box"
  let byRef ← word? "ref"
  let mutable ← word? "mut"
  if boxed || byRef || mutable then
    discard ident
  else
    let isNamed ← member
    if !isNamed || (← sees (atOp ":")) then
      op ":"
      element r

-- Fields up to the dots that stand for the others.
def fields (r : Rules) : Nat → Parser Unit
  | 0        => return
  | fuel + 1 => do
    if ← sees atEnd then return
    discard (Attributes.outer r)
    if ← op? ".." then return
    fieldPattern r
    if ← sees atEnd then return
    op ","
    fields r fuel

def ofPath (r : Rules) : Parser OpenRange := do
  let p ← qualifiedPath r .expr
  let ts ← ahead
  if !p.qualified && p.isPlain && atMacroMark ts then
    discard macroRest
    return none
  if atGroup .brace ts then
    inside .brace do fields r (← ahead).length
    return none
  if atGroup .parenthesis ts then
    discard (inside .parenthesis (list (element r)))
    return none
  if atOp ".." ts then rangeFrom r else return none

def binding (r : Rules) : Parser Unit := do
  discard (word? "ref")
  discard (word? "mut")
  if ← sees (atWord "self") then discard anyWord else discard ident
  if ← op? "@" then discard r.pattern

-- A range without an end needs parentheses in a slice.
def sliceElement (r : Rules) : Parser Unit := do
  match ← read r with
  | some start => failAt start
  | none       => return

def atPath (ts : List Placed) : Bool :=
  (atIdent ts &&
    (let ts := second ts
     atAnyOp ["::", "!", ".."] ts || atGroup .brace ts || atGroup .parenthesis ts)) ||
  (atWord "self" ts && atOp "::" (second ts)) ||
  atAnyOp ["::", "<"] ts || atAnyWord ["Self", "super", "crate"] ts

-- A pattern without alternatives at its top.
def single (r : Rules) : Parser OpenRange := do
  let ts ← ahead
  if atPath ts then ofPath r
  else if atWord "_" ts then
    discard anyWord
    return none
  else if atWord "box" ts then
    word "box"
    discard r.pattern
    return none
  else if atOp "-" ts || atLiteral ts || atWord "const" ts then literalOrRange r
  else if atAnyWord ["ref", "mut", "self"] ts || atIdent ts then
    binding r
    return none
  else if atOp "&" ts then
    op "&"
    discard (word? "mut")
    discard r.pattern
    return none
  else if atGroup .parenthesis ts then
    discard (inside .parenthesis (list (element r)))
    return none
  else if atGroup .bracket ts then
    discard (inside .bracket (list (sliceElement r)))
    return none
  else if atOp ".." ts && !atOp "..." ts then rangeTo r
  else fail

end CollectionPlan.Grammar.Pattern
