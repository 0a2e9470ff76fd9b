import CollectionPlan.Grammar.Signature

namespace CollectionPlan.Grammar.TypeItem

def atNested (ts : List Placed) : Bool :=
  atWord "struct" ts || (atWord "union" ts && atGroup .brace (second ts))

-- A field with a name. A field without one can hold the fields of a nested declaration.
def namedField (r : Rules) (nested : Parser (List Field)) : Parser Field := do
  let attrs ← Attributes.outer r
  discard Visibility.read
  let unnamed ← sees (atWord "_")
  let name ← if unnamed then anyWord else (·.toWord) <$> ident
  op ":"
  if ← sees fun ts => unnamed && atNested ts then
    let start ← ahead
    discard anyWord
    discard nested
    return { name := name.text, attrs, type := .other (← since start) }
  return { name := name.text, attrs, type := ← r.type true }

def namedFieldsWithin (r : Rules) : Nat → Parser (List Field)
  | 0        => fail
  | fuel + 1 => inside .brace (list (namedField r (namedFieldsWithin r fuel)))

def namedFields (r : Rules) : Parser (List Field) := do
  namedFieldsWithin r (← ahead).length

def position (r : Rules) : Parser Field := do
  let attrs ← Attributes.outer r
  discard Visibility.read
  return { name := none, attrs, type := ← r.type true }

def positions (r : Rules) : Parser (List Field) :=
  inside .parenthesis (list (position r))

-- The fields of a struct; a tuple and a unit end with a semicolon.
def structFields (r : Rules) : Parser (List Field) := do
  let constrained ← WhereClause.read r
  if !constrained && (← sees (atGroup .parenthesis)) then
    let fields ← positions r
    discard (WhereClause.read r)
    op ";"
    return fields
  else if ← sees (atGroup .brace) then namedFields r
  else
    op ";"
    return []

def ofStruct (r : Rules) (attrs : List Attribute) : Parser TypeItem := do
  word "struct"
  let ident ← ident
  let typeParams ← Generics.read r
  return { ident, typeParams, attrs, body := .struct (← structFields r) }

def variant (r : Rules) : Parser (List Field) := do
  discard (Attributes.outer r)
  discard Visibility.read
  discard ident
  let fields ←
    if ← sees (atGroup .brace) then namedFields r
    else if ← sees (atGroup .parenthesis) then positions r
    else pure []
  if ← op? "=" then discard (r.expr true)
  return fields

def ofEnum (r : Rules) (attrs : List Attribute) : Parser TypeItem := do
  word "enum"
  let ident ← ident
  let typeParams ← Generics.read r
  discard (WhereClause.read r)
  return { ident, typeParams, attrs, body := .enum (← inside .brace (list (variant r))) }

def ofUnion (r : Rules) : Parser Unit := do
  word "union"
  discard ident
  discard (Generics.read r)
  discard (WhereClause.read r)
  discard (namedFields r)

-- Where the constraints of a type stand.
inductive WherePlace
  | beforeTarget
  | behindTarget
  | either
deriving DecidableEq

def atBoundsEnd (ts : List Placed) : Bool :=
  atWord "where" ts || atAnyOp ["=", ";"] ts

-- A type with optional bounds and an optional target. It is an alias if it has a target alone.
def ofType (r : Rules) (place : WherePlace) (attrs : List Attribute) : Parser (Option TypeItem) := do
  word "type"
  let ident ← ident
  let typeParams ← Generics.read r
  let bounded ← op? ":"
  if bounded then discard (separated "+" atBoundsEnd (r.bound false true))
  let constrained ← if place ≠ .behindTarget then WhereClause.read r else pure false
  let target? ← if ← op? "=" then some <$> r.type true else pure none
  if place ≠ .beforeTarget && !constrained then discard (WhereClause.read r)
  op ";"
  match target?, bounded with
  | some target, false => return some { ident, typeParams, attrs, body := .alias target }
  | _, _               => return none

end CollectionPlan.Grammar.TypeItem
