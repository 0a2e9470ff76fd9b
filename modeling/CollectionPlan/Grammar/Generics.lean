import CollectionPlan.Grammar.Attribute

namespace CollectionPlan.Grammar

def typeParamBounds (r : Rules) (stop : List Placed → Bool) : Parser Unit :=
  discard (chained "+" stop (r.bound false true))

namespace Generics

def lifetimeParam : Parser Unit := do
  lifetime
  if ← op? ":" then
    discard (chained "+" (fun ts => atEnd ts || atAnyOp [",", ">"] ts) lifetime)

def typeParam (r : Rules) : Parser String := do
  let name ← ident
  if ← op? ":" then
    typeParamBounds r fun ts => atEnd ts || atAnyOp [",", ">", "="] ts
  if ← op? "=" then discard (r.type true)
  return name.text

def constParam (r : Rules) : Parser Unit := do
  word "const"
  discard ident
  op ":"
  discard (r.type true)
  if ← op? "=" then Argument.const r

-- A parameter; the answer is the name of a type parameter.
def param (r : Rules) : Parser (Option String) := do
  discard (Attributes.outer r)
  if ← sees atLifetime then
    lifetimeParam
    return none
  else if ← sees atIdent then
    return some (← typeParam r)
  else if ← sees (atWord "const") then
    constParam r
    return none
  else if ← sees (atWord "_") then
    return some (← anyWord).text
  else fail

-- The names of the type parameters in angle brackets, which may be missing.
def read (r : Rules) : Parser (List String) := do
  if !(← op? "<") then return []
  let params ← separated "," (atOp ">") (param r)
  op ">"
  return params.filterMap id

-- Whether angle brackets behind a word hold parameters and not a qualified type.
def follow (ts : List Placed) : Bool :=
  atOp "<" ts &&
    (let ts := second ts
     atOp ">" ts || atOp "#" ts || atWord "const" ts ||
      ((atLifetime ts || atIdent ts) &&
        (let ts := second ts
         atAnyOp [">", ",", "="] ts || atColon ts)))

end Generics

-- Lifetimes that a type or a closure is general in.
def forLifetimes (r : Rules) : Parser Bool :=
  whenSees (atWord "for") do
    word "for"
    op "<"
    discard (separated "," (atOp ">") (Generics.param r))
    op ">"

namespace WhereClause

def atStop (ts : List Placed) : Bool :=
  atEnd ts || atGroup .brace ts || atAnyOp [",", ";", "="] ts || atColon ts

def predicate (r : Rules) : Parser Unit := do
  if ← sees fun ts => atLifetime ts && atOp ":" (second ts) then
    lifetime
    op ":"
    discard (chained "+" (fun ts => atStop ts || atOp ":" ts) lifetime)
  else
    discard (forLifetimes r)
    discard (r.type true)
    op ":"
    typeParamBounds r atStop

def read (r : Rules) : Parser Bool :=
  whenSees (atWord "where") do
    word "where"
    discard (chained "," atStop (predicate r))

end WhereClause

namespace Bound

-- Captured lifetimes and parameters.
def capturing : Parser Unit := do
  word "use"
  op "<"
  discard (separated "," (atOp ">") do
    if ← sees atLifetime then lifetime
    else if ← sees fun ts => atIdent ts || atWord "Self" ts then discard anyWord
    else fail)
  op ">"

-- Types in parentheses and the type that they lead to.
def signature (r : Rules) : Parser Unit := do
  inside .parenthesis (discard (list (r.type true)))
  if ← op? "->" then discard (r.type false)

def trait (r : Rules) (const : Bool) : Parser Unit := do
  let general ← forLifetimes r
  if ← sees (atGroup .bracket) then
    let start ← ahead
    inside .bracket (word "const")
    if !const then failAt start
  else if ← sees (atWord "const") then
    let start ← ahead
    word "const"
    if !const then failAt start
  let start ← ahead
  let maybe ← op? "?"
  let general ← if !general && maybe then forLifetimes r else pure general
  let p ← path r .type
  if p.segments.getLast?.all (!·.applied) then
    let atSignature (ts : List Placed) :=
      atGroup .parenthesis ts || (afterOperator? [':', ':'] ts).any (atGroup .parenthesis)
    if ← sees atSignature then
      discard (op? "::")
      signature r
  if general && maybe then failAt start

-- A single bound; the answer is whether it names a trait.
def read (r : Rules) (capture const : Bool) : Parser Bool := do
  if ← sees atLifetime then
    lifetime
    return false
  if ← sees (atWord "use") then
    let start ← ahead
    capturing
    if !capture then failAt start
    return false
  if ← sees (atGroup .parenthesis) then inside .parenthesis (trait r const) else trait r const
  return true

def atStart (const : Bool) (ts : List Placed) : Bool :=
  (headWord? ts).isSome || atAnyOp ["::", "?"] ts || atLifetime ts || atGroup .parenthesis ts ||
    (const && atGroup .bracket ts)

-- Bounds with plus signs between them: whether each names a trait, and whether a plus ends them.
def sum (r : Rules) (plus capture const : Bool) : Nat → Parser (List Bool × Bool)
  | 0        => return ([], false)
  | fuel + 1 => do
    let trait ← r.bound capture const
    if !plus then return ([trait], false)
    if !(← op? "+") then return ([trait], false)
    if !(← sees (atStart const)) then return ([trait], true)
    let (traits, trailing) ← sum r plus capture const fuel
    return (trait :: traits, trailing)

-- At least one bound has to name a trait, else the fault lies at `start`. The answer is the number
-- of bounds.
def object (r : Rules) (plus capture const : Bool) (start : List Placed) : Parser Nat := do
  let (traits, trailing) ← sum r plus capture const (← ahead).length
  if !traits.any id then failAt start
  return traits.length + if trailing then 1 else 0

end Bound
end CollectionPlan.Grammar
