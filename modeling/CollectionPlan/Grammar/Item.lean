import CollectionPlan.Grammar.Member

namespace CollectionPlan.Grammar

namespace UseTree

def atSegment (ts : List Placed) : Bool :=
  atIdent ts || atAnyWord ["self", "super", "crate", "try"] ts

-- The tree of an import. As long as no segment was read, a part may start with a double colon.
def read (r : Rules) (root : Bool) : Parser Unit := do
  let ts ← ahead
  if atSegment ts then
    discard anyWord
    if ← op? "::" then r.useTree false
    else if ← word? "as" then
      if ← sees fun ts => atIdent ts || atWord "_" ts then discard anyWord else fail
  else if atOp "*" ts then op "*"
  else if atGroup .brace ts then
    discard <| inside .brace <| list do
      let rooted ← whenSees (fun ts => root && atOp "::" ts) (op "::")
      r.useTree (root && !rooted)
  else fail

end UseTree

namespace Item

def imports (r : Rules) : Parser Unit := do
  word "use"
  let leading ← op? "::"
  r.useTree (!leading)
  op ";"

def externCrate : Parser Unit := do
  word "extern"
  word "crate"
  if ← sees (atWord "self") then discard anyWord else discard ident
  if ← word? "as" then
    if ← sees (atWord "_") then discard anyWord else discard ident
  op ";"

def foreignMod (r : Rules) : Parser Unit := do
  discard (word? "unsafe")
  if !(← Type.abi) then fail
  Member.block r (Member.ofForeign r)

def staticItem (r : Rules) : Parser Unit := do
  word "static"
  discard (word? "mut")
  discard ident
  if ← op? "=" then
    discard (r.expr true)
    op ";"
  else
    op ":"
    discard (r.type true)
    if !(← op? ";") then
      op "="
      discard (r.expr true)
      op ";"

def module (r : Rules) : Parser Unit := do
  discard (word? "unsafe")
  word "mod"
  if ← sees (atWord "try") then discard anyWord else discard ident
  if !(← op? ";") then Member.block r r.item

def atTraitBody (ts : List Placed) : Bool :=
  atWord "where" ts || atGroup .brace ts

def traitBody (r : Rules) : Parser Unit := do
  if ← op? ":" then discard (separated "+" atTraitBody (r.bound false true))
  discard (WhereClause.read r)
  Member.block r (Member.ofTrait r)

def traitAlias (r : Rules) : Parser Unit := do
  op "="
  discard (separated "+" (fun ts => atWord "where" ts || atOp ";" ts) (r.bound false false))
  discard (WhereClause.read r)
  op ";"

-- A trait; one without marks in front of it can be an alias.
def trait (r : Rules) : Parser Unit := do
  let unsafe? ← word? "unsafe"
  let auto ← word? "auto"
  word "trait"
  discard ident
  discard (Generics.read r)
  let ts ← ahead
  if unsafe? || auto || atTraitBody ts || atOp ":" ts then traitBody r
  else if atOp "=" ts then traitAlias r
  else fail

def implementation (r : Rules) : Parser Unit := do
  discard (word? "default")
  discard (word? "unsafe")
  word "impl"
  if ← sees Generics.follow then discard (Generics.read r)
  if ← sees fun ts => atWord "const" ts || (atOp "?" ts && atWord "const" (second ts)) then
    discard (op? "?")
    word "const"
  discard (whenSees (fun ts => atOp "!" ts && !atGroup .brace (second ts)) (op "!"))
  discard (r.type true)
  if ← word? "for" then discard (r.type true)
  discard (WhereClause.read r)
  Member.block r (Member.ofImpl r)

def macroItem : Parser Unit := do
  discard modPath
  op "!"
  if ← sees fun ts => atIdent ts || atWord "try" ts then discard anyWord
  let (d, _) ← anyGroup
  Member.macroEnd d

def macroDeclaration : Parser Unit := do
  word "macro"
  discard ident
  if ← sees (atGroup .parenthesis) then discard (inside .parenthesis raw)
  discard (inside .brace raw)

def function (r : Rules) : Parser Unit := do
  Signature.read r false
  if !(← op? ";") then Member.body r

-- An item that declares no type, whose first tokens behind its visibility are `ts`.
def other (r : Rules) (visible : Bool) (ts : List Placed) : Parser Unit := do
  if atWord "mod" ts || (atWord "unsafe" ts && atWord "mod" (second ts)) then module r
  else if atWord "use" ts then imports r
  else if atWord "static" ts then staticItem r
  else if atWord "const" ts then Member.const r
  else if atWord "union" ts && atIdent (second ts) then TypeItem.ofUnion r
  else if atWord "trait" ts || (atWord "auto" ts && atWord "trait" (second ts)) then trait r
  else if atWord "impl" ts || (atWord "default" ts && !atOp "!" (second ts)) then implementation r
  else if atWord "macro" ts then macroDeclaration
  else if !visible && Member.atMacroPath ts then macroItem
  else fail

def ofUnsafe (r : Rules) (ts : List Placed) : Parser Unit := do
  let next := second ts
  if atWord "trait" next || (atWord "auto" next && atWord "trait" (second next)) then trait r
  else if atWord "impl" next then implementation r
  else if atWord "mod" next then module r
  else
    word "unsafe"
    fail

def atForeignMod (ts : List Placed) : Bool :=
  let next := second ts
  atGroup .brace next || (atTextLiteral next && atGroup .brace (second next))

def ofExtern (r : Rules) (ts : List Placed) : Parser Unit := do
  if atWord "crate" (second ts) then externCrate
  else if atForeignMod ts then foreignMod r
  else
    word "extern"
    if ← sees atTextLiteral then literal
    fail

-- An item behind its attributes. Only one that declares a type has an answer.
def rest (r : Rules) (attrs : List Attribute) : Parser (Option TypeItem) := do
  let start ← ahead
  let visible ← Visibility.read
  let ts ← ahead
  if Signature.ahead? false ts then function r
  else if atWord "struct" ts then return some (← TypeItem.ofStruct r attrs)
  else if atWord "enum" ts then return some (← TypeItem.ofEnum r attrs)
  else if atWord "type" ts then return ← TypeItem.ofType r .beforeTarget attrs
  else if atWord "extern" ts then
    -- A foreign module has no visibility.
    if visible && atForeignMod ts then failAt start
    ofExtern r ts
  else if atWord "unsafe" ts && atWord "extern" (second ts) then
    if visible then failAt start
    foreignMod r
  else if atWord "unsafe" ts then ofUnsafe r ts
  else other r visible ts
  return none

def read (r : Rules) : Parser (Option TypeItem) := do
  rest r (← Attributes.outer r)

end Item
end CollectionPlan.Grammar
