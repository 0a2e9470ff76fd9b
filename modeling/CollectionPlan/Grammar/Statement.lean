import CollectionPlan.Grammar.Expr
import CollectionPlan.Grammar.Item

namespace CollectionPlan.Grammar.Statement

def atItem (ts : List Placed) : Bool :=
  let next := second ts
  let third := second next
  atAnyWord ["pub", "extern", "use", "fn", "mod", "type", "struct", "enum", "trait", "impl", "macro"] ts ||
    (atWord "crate" ts && !atOp "::" next) ||
    (atWord "static" ts &&
      (atWord "mut" next ||
        (atIdent next && !(atWord "async" next && (atWord "move" third || atOp "|" third))))) ||
    (atWord "const" ts &&
      !(atGroup .brace next || atAnyWord ["static", "move"] next || atOp "|" next ||
        (atWord "async" next && !atAnyWord ["unsafe", "extern", "fn"] third))) ||
    (atWord "unsafe" ts && !atGroup .brace next) ||
    (atWord "async" ts && atAnyWord ["unsafe", "extern", "fn"] next) ||
    (atWord "union" ts && atIdent next) ||
    (atWord "auto" ts && atWord "trait" next) ||
    (atWord "default" ts && atAnyWord ["unsafe", "impl"] next)

-- Whether the tokens behind a path make it a macro that is defined.
def atMacroItem (ts : List Placed) : Bool :=
  atOp "!" ts && (let next := second ts; atIdent next || atWord "try" next)

-- Whether the tokens behind a path make it a macro call that ends with its braces.
def atMacroStatement (ts : List Placed) : Bool :=
  atOp "!" ts && atGroup .brace (second ts) && !Expr.isSelected (third ts)

def macroStatement : Parser Unit := do
  discard modPath
  discard macroRest
  discard (op? ";")

def endsWithBrace : Parser Bool :=
  return (← get).written.head? = some (.closing .brace)

def binding (r : Rules) : Parser Unit := do
  word "let"
  discard r.pattern
  if ← op? ":" then discard (r.type true)
  if ← op? "=" then
    discard (r.expr true)
    if !(← endsWithBrace) && (← sees (atWord "else")) then
      word "else"
      Expr.block r
  op ";"

-- A statement; the answer is whether it needs a semicolon if another one follows.
def read (r : Rules) : Parser Bool := do
  let attrs ← Attributes.outer r
  let behind ← behind? modPath
  if behind.any atMacroStatement then
    macroStatement
    return false
  if ← sees (atWord "let") then
    binding r
    return false
  if behind.any atMacroItem || (← sees atItem) then
    discard (Item.rest r attrs)
    return false
  let shape ← r.early
  if ← op? ";" then return false
  return !shape.isStatement

def readAll (r : Rules) : Nat → Parser Unit
  | 0        => return
  | fuel + 1 => do
    discard (repeatWhile (atOp ";") (op ";"))
    if ← sees atEnd then return
    let unfinished ← read r
    if ← sees atEnd then return
    if unfinished then fail
    readAll r fuel

def sequence (r : Rules) : Parser Unit := do
  readAll r (← ahead).length

def body (r : Rules) : Parser Unit := do
  Attributes.inner r
  sequence r

end CollectionPlan.Grammar.Statement
