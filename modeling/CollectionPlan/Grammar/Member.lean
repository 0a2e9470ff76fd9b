import CollectionPlan.Grammar.TypeItem

-- What stands between the braces of traits, implementations and foreign modules.
namespace CollectionPlan.Grammar.Member

def atMacroPath (ts : List Placed) : Bool :=
  atIdent ts || atAnyWord ["self", "super", "crate"] ts || atOp "::" ts

def macroEnd (d : Delimiter) : Parser Unit := do
  if d ≠ .brace then op ";"

def macroCall : Parser Unit := do
  discard modPath
  macroEnd (← macroRest)

def initializer (r : Rules) : Parser Unit := do
  if ← op? "=" then discard (r.expr true)

-- A constant, whose value can be missing.
def const (r : Rules) : Parser Unit := do
  word "const"
  if ← sees fun ts => atIdent ts || atWord "_" ts then discard anyWord else fail
  discard (Generics.read r)
  op ":"
  discard (r.type true)
  initializer r
  discard (WhereClause.read r)
  op ";"

def body (r : Rules) : Parser Unit :=
  inside .brace r.body

-- A function, whose body can be missing.
def function (r : Rules) (safe : Bool) : Parser Unit := do
  Signature.read r safe
  if !(← op? ";") then body r

def ofTrait (r : Rules) : Parser Unit := do
  discard (Attributes.outer r)
  let visible ← Visibility.read
  let default ← word? "default"
  let ts ← ahead
  if Signature.ahead? false ts then function r false
  else if atWord "const" ts then
    if atAnyWord ["async", "unsafe", "extern", "fn"] ts.tail then function r false else const r
  else if atWord "type" ts then discard (TypeItem.ofType r .behindTarget [])
  else if !visible && !default && atMacroPath ts then macroCall
  else fail

def ofImpl (r : Rules) : Parser Unit := do
  discard (Attributes.outer r)
  let visible ← Visibility.read
  let default ← whenSees (fun ts => atWord "default" ts && !atOp "!" (second ts)) (word "default")
  let ts ← ahead
  if Signature.ahead? false ts then function r false
  else if atWord "const" ts then const r
  else if atWord "type" ts then discard (TypeItem.ofType r .behindTarget [])
  else if !visible && !default && atMacroPath ts then macroCall
  else fail

def foreignStatic (r : Rules) : Parser Unit := do
  if !(← word? "unsafe") then discard (word? "safe")
  word "static"
  discard (word? "mut")
  discard ident
  op ":"
  discard (r.type true)
  initializer r
  op ";"

def ofForeign (r : Rules) : Parser Unit := do
  discard (Attributes.outer r)
  let visible ← Visibility.read
  let ts ← ahead
  if Signature.ahead? true ts then function r true
  else if atWord "static" ts || (atAnyWord ["unsafe", "safe"] ts && atWord "static" (second ts)) then
    foreignStatic r
  else if atWord "type" ts then discard (TypeItem.ofType r .either [])
  else if !visible && atMacroPath ts then macroCall
  else fail

-- Members between braces, behind attributes of what they belong to.
def block (r : Rules) (member : Parser α) : Parser Unit :=
  inside .brace do
    Attributes.inner r
    discard (untilEnd member)

end CollectionPlan.Grammar.Member
