import CollectionPlan.Grammar.Path

namespace CollectionPlan.Grammar.Attributes

def path : Parser (Bool × List Word) := do
  if ← word? "unsafe" then return (false, [⟨"unsafe", by decide⟩]) else modPath

-- A literal can be the whole value.
def value (r : Rules) : Parser Unit := do
  match literal? (← ahead) with
  | some (tokens, rest) => if atEnd rest then advance rest tokens else discard (r.expr true)
  | none                =>
    if ← sees fun ts => atOp "#" ts && atGroup .bracket (second ts) then fail
    discard (r.expr true)

def body (r : Rules) : Parser Attribute.Body := do
  if ← sees atAnyGroup then
    let (d, content) ← anyGroup
    return .list d content
  if ← op? "=" then
    let (_, content) ← capture (value r)
    return .value content
  return .word

def content (r : Rules) : Parser Attribute := do
  let (leading, path) ← path
  return { leading, path, body := ← body r }

def outerOne (r : Rules) : Parser Attribute := do
  op "#"
  inside .bracket (content r)

def outer (r : Rules) : Parser (List Attribute) :=
  repeatWhile (atOp "#") (outerOne r)

def atInner (ts : List Placed) : Bool :=
  atOp "#" ts && atOp "!" (second ts)

def inner (r : Rules) : Parser Unit :=
  discard <| repeatWhile atInner do
    op "#"
    op "!"
    inside .bracket (content r)

end CollectionPlan.Grammar.Attributes
