import CollectionPlan.Grammar.Pattern
import CollectionPlan.Grammar.Type
import CollectionPlan.Text.Line

namespace CollectionPlan.Grammar.Expr

-- How tightly operators bind.
namespace Level

def any : Nat := 0
def assign : Nat := 1
def range : Nat := 2
def or : Nat := 3
def and : Nat := 4
def compare : Nat := 6
def bitOr : Nat := 7
def bitXor : Nat := 8
def bitAnd : Nat := 9
def shift : Nat := 10
def sum : Nat := 11
def product : Nat := 12
def cast : Nat := 13

end Level

-- Binary operators, each in front of those that it starts with.
def operators : List (String × Nat) :=
  [("+=", Level.assign), ("-=", Level.assign), ("*=", Level.assign), ("/=", Level.assign),
    ("%=", Level.assign), ("^=", Level.assign), ("&=", Level.assign), ("|=", Level.assign),
    ("<<=", Level.assign), (">>=", Level.assign), ("&&", Level.and), ("||", Level.or),
    ("<<", Level.shift), (">>", Level.shift), ("==", Level.compare), ("<=", Level.compare),
    ("!=", Level.compare), (">=", Level.compare), ("+", Level.sum), ("-", Level.sum),
    ("*", Level.product), ("/", Level.product), ("%", Level.product), ("^", Level.bitXor),
    ("&", Level.bitAnd), ("|", Level.bitOr), ("<", Level.compare), (">", Level.compare)]

def operator? (ts : List Placed) : Option (String × Nat) :=
  operators.find? fun (text, _) => atOp text ts

def atAssign (ts : List Placed) : Bool :=
  atOp "=" ts && !atOp "=>" ts

def levelAhead (ts : List Placed) : Nat :=
  match operator? ts with
  | some (_, level) => level
  | none            =>
    if atAssign ts then Level.assign
    else if atOp ".." ts then Level.range
    else if atWord "as" ts then Level.cast
    else Level.any

-- Groups of statements.

def block (r : Rules) : Parser Unit :=
  inside .brace r.statements

def bodyBlock (r : Rules) : Parser Unit :=
  inside .brace r.body

-- Operands.

def operandRest (r : Rules) (struct : Bool) (level : Nat) : Nat → Shape → Parser Unit
  | 0, _          => return
  | fuel + 1, rhs => do
    let ts ← ahead
    let next := levelAhead ts
    if level < next || (next = level && level = Level.assign) then
      let rhs ← r.climb struct next rhs
      -- What is ahead may not continue this operand after all.
      if (← ahead).length = ts.length then return
      operandRest r struct level fuel rhs

-- The right hand side of an operator takes all operators that bind more tightly.
def operand (r : Rules) (struct : Bool) (level : Nat) : Parser Unit := do
  let rhs ← r.unary struct
  operandRest r struct level (← ahead).length rhs

def atRangeEnd (struct : Bool) (ts : List Placed) : Bool :=
  atEnd ts || atAnyOp [",", ";", "?", "=", "+", "/", "%", "^", ">", "<=", "!=", "-=", "*=", "&=", "|=",
    "<<="] ts || (atOp "." ts && !atOp ".." ts) || (!struct && atGroup .brace ts) || atWord "as" ts

def range (r : Rules) (struct : Bool) : Parser Unit := do
  let closed ← Pattern.dots false
  if closed || !(← sees (atRangeEnd struct)) then operand r struct Level.range

-- A cast is not called, indexed or selected from without parentheses.
def endCast : Parser Unit := do
  if ← sees fun ts => (atOp "." ts && !atOp ".." ts) || atOp "?" ts || atGroup .bracket ts ||
      atGroup .parenthesis ts then
    fail

-- Extends `lhs` by the operators ahead that bind at least as tightly as `base`.
def climb (r : Rules) (struct : Bool) (base : Nat) (lhs : Shape) : Parser Shape := do
  if lhs = .range then return lhs
  let ts ← ahead
  match operator? ts with
  | some (text, level) =>
    if level < base then return lhs
    if level = Level.compare && lhs = .comparison then fail
    op text
    operand r struct level
    r.climb struct base (if level = Level.compare then .comparison else .other)
  | none =>
    if base ≤ Level.assign && atAssign ts then
      op "="
      operand r struct Level.assign
      r.climb struct base .other
    else if base ≤ Level.range && atOp ".." ts then
      range r struct
      return .range
    else if base ≤ Level.cast && atWord "as" ts then
      word "as"
      discard (r.type false)
      endCast
      r.climb struct base .other
    else return lhs

-- What follows an expression that stands alone.

def isFloat (text : String) : Bool :=
  isNumber text && text.toList.contains '.'

-- Two positions with a dot between them read as one number. The answer is whether a further dot is
-- part of it.
def positions (text : String) : Parser Bool := do
  let parts := Text.splitAt (· = '.') text.toList
  let trailing := parts.getLast? = some []
  let parts := if trailing then parts.dropLast else parts
  match parts.mapM fun part => position? (String.ofList part) with
  | none        => fail
  | some values =>
    let tokens := values.map fun n => Token.literal (toString n)
    let dotted := (tokens.intersperse (.punct '.' false)) ++ if trailing then [.punct '.' false] else []
    advance (← ahead).tail dotted
    return trailing

def floatAhead? : List Placed → Option String
  | ⟨.literal text, _⟩ :: _ => if isFloat text then some text else none
  | _                      => none

def arguments (r : Rules) : Parser Unit :=
  discard (inside .parenthesis (list (r.expr true)))

def selected (r : Rules) : Parser Unit := do
  if ← word? "await" then return
  let named ← member
  let general ← whenSees (fun ts => named && atOp "::" ts) do
    op "::"
    Argument.list r
  if general || (named && (← sees (atGroup .parenthesis))) then arguments r

def selection (r : Rules) : Parser Unit := do
  op "."
  match floatAhead? (← ahead) with
  | some text => if ← positions text then selected r
  | none      => selected r

def trailers (r : Rules) : Nat → Shape → Parser Shape
  | 0, e        => return e
  | fuel + 1, e => do
    let ts ← ahead
    if e = .range then return e
    if atGroup .parenthesis ts then
      arguments r
      trailers r fuel .other
    else if atOp "." ts && !atOp ".." ts then
      selection r
      trailers r fuel .other
    else if atGroup .bracket ts then
      discard (inside .bracket (r.expr true))
      trailers r fuel .other
    else if atOp "?" ts then
      op "?"
      trailers r fuel .other
    else return e

-- Forms that end with a block.

def ifChain (r : Rules) : Nat → Parser Unit
  | 0        => fail
  | fuel + 1 => do
    word "if"
    discard (r.expr false)
    block r
    if ← word? "else" then
      if ← sees (atWord "if") then ifChain r fuel else block r

def ofIf (r : Rules) : Parser Unit := do
  ifChain r (← ahead).length

def ofWhile (r : Rules) : Parser Unit := do
  word "while"
  discard (r.expr false)
  bodyBlock r

def ofFor (r : Rules) : Parser Unit := do
  word "for"
  discard (Pattern.read r)
  word "in"
  discard (r.expr false)
  bodyBlock r

def ofLoop (r : Rules) : Parser Unit := do
  word "loop"
  bodyBlock r

def atForClosure (ts : List Placed) : Bool :=
  atWord "for" ts && Generics.follow (second ts)

def atFor (ts : List Placed) : Bool :=
  atWord "for" ts && !Generics.follow (second ts)

def labelled (r : Rules) : Parser Unit := do
  lifetime
  op ":"
  let ts ← ahead
  if atWord "while" ts then ofWhile r
  else if atWord "for" ts then ofFor r
  else if atWord "loop" ts then ofLoop r
  else if atGroup .brace ts then bodyBlock r
  else fail

-- An arm needs a comma behind it unless it ends the match or its body is a block.
def arm (r : Rules) : Parser Unit := do
  discard (Attributes.outer r)
  discard (Pattern.read r)
  if ← word? "if" then discard (r.expr true)
  op "=>"
  let shape ← r.early
  if shape ≠ .block && !(← sees atEnd) then op "," else discard (op? ",")

def ofMatch (r : Rules) : Parser Unit := do
  word "match"
  discard (r.expr false)
  inside .brace do
    Attributes.inner r
    discard (untilEnd (arm r))

def marked (w : String) (r : Rules) : Parser Unit := do
  word w
  bodyBlock r

def ofTry (r : Rules) : Parser Unit := do
  word "try"
  block r

-- Whether a form is ahead that is complete as soon as its block ends.
def atBlockForm (ts : List Placed) : Bool :=
  atAnyWord ["if", "while", "loop", "match", "unsafe"] ts || atFor ts ||
    (atAnyWord ["try", "const"] ts && atGroup .brace (second ts)) || atGroup .brace ts || atLifetime ts

def blockForm (r : Rules) : Parser Unit := do
  let ts ← ahead
  if atWord "if" ts then ofIf r
  else if atWord "while" ts then ofWhile r
  else if atWord "for" ts then ofFor r
  else if atWord "loop" ts then ofLoop r
  else if atWord "match" ts then ofMatch r
  else if atWord "try" ts then ofTry r
  else if atWord "unsafe" ts then marked "unsafe" r
  else if atWord "const" ts then marked "const" r
  else if atGroup .brace ts then bodyBlock r
  else labelled r

def isSelected (ts : List Placed) : Bool :=
  (atOp "." ts && !atOp ".." ts) || atOp "?" ts

-- An expression as it stands in a statement or a match arm: one that ends with a block goes on only
-- behind a dot or a question mark.
def early (r : Rules) : Parser Shape := do
  discard (Attributes.outer r)
  if ← sees atBlockForm then
    blockForm r
    if !(← sees isSelected) then return .block
    let e ← trailers r (← ahead).length .block
    r.climb true Level.any e
  else
    let e ← r.unary true
    r.climb true Level.any e

-- Expressions that stand alone.

def canBegin (ts : List Placed) : Bool :=
  (headWord? ts).isSome || atAnyGroup ts || atLiteral ts ||
    (atOp "!" ts && !atOp "!=" ts) || (atOp "-" ts && !atAnyOp ["-=", "->"] ts) ||
    (atOp "*" ts && !atOp "*=" ts) || (atOp "|" ts && !atOp "|=" ts) ||
    (atOp "&" ts && !atOp "&=" ts) || atAnyOp ["..", "::", "#"] ts ||
    (atOp "<" ts && !atAnyOp ["<=", "<<="] ts) || atLifetime ts

def optional (r : Rules) : Parser Unit := do
  if ← sees canBegin then discard (r.expr true)

def ofAsync (r : Rules) : Parser Unit := do
  word "async"
  discard (word? "move")
  block r

def closureParam (r : Rules) : Parser Unit := do
  discard (Attributes.outer r)
  discard r.pattern
  if ← op? ":" then discard (r.type true)

def closure (r : Rules) (struct : Bool) : Parser Unit := do
  discard (forLifetimes r)
  discard (word? "const")
  discard (word? "static")
  discard (word? "async")
  discard (word? "move")
  op "|"
  discard (separated "," (atOp "|") (closureParam r))
  op "|"
  if ← op? "->" then
    discard (r.type true)
    block r
  else discard (r.expr struct)

def structField (r : Rules) : Parser Unit := do
  discard (Attributes.outer r)
  let named ← member
  if !named || (← sees (atOp ":")) then
    op ":"
    discard (r.expr true)

-- Fields up to the dots in front of what the others are taken from.
def structFields (r : Rules) : Nat → Parser Unit
  | 0        => return
  | fuel + 1 => do
    if ← sees atEnd then return
    if ← op? ".." then
      if !(← sees atEnd) then discard (r.expr true)
      return
    structField r
    if ← sees atEnd then return
    op ","
    structFields r fuel

def ofPath (r : Rules) (struct : Bool) : Parser Shape := do
  let p ← qualifiedPath r .expr
  let ts ← ahead
  if !p.qualified && p.isPlain && atMacroMark ts then
    let d ← macroRest
    return .macroCall (d = .brace)
  if struct && atGroup .brace ts then
    inside .brace do structFields r (← ahead).length
  return .other

def ofBracket (r : Rules) : Parser Unit :=
  inside .bracket do
    if ← sees atEnd then return
    discard (r.expr true)
    if ← sees atEnd then return
    if ← op? "," then discard (list (r.expr true))
    else if ← op? ";" then discard (r.expr true)
    else fail

def ofBreak (r : Rules) (struct : Bool) : Parser Unit := do
  word "break"
  let start ← ahead
  if atLifetime start && atOp ":" (second start) then
    discard (r.expr true)
    failAt start
  discard lifetime?
  if ← sees fun ts => canBegin ts && (struct || !atGroup .brace ts) then discard (r.expr true)

def ofLet (r : Rules) (struct : Bool) : Parser Unit := do
  word "let"
  discard (Pattern.read r)
  op "="
  let e ← r.unary struct
  discard (r.climb struct Level.compare e)

def ofBuiltin : Parser Unit := do
  word "builtin"
  op "#"
  discard ident
  discard (inside .parenthesis raw)

def atAsync (ts : List Placed) : Bool :=
  atWord "async" ts &&
    (let ts := second ts
     atGroup .brace ts || (atWord "move" ts && atGroup .brace (second ts)))

def atClosure (ts : List Placed) : Bool :=
  atOp "|" ts || atAnyWord ["move", "static"] ts || atForClosure ts ||
    (atWord "const" ts && !atGroup .brace (second ts)) ||
    (atWord "async" ts &&
      (let ts := second ts
       atOp "|" ts || atWord "move" ts))

def atPath (ts : List Placed) : Bool :=
  atIdent ts || atAnyOp ["::", "<"] ts || atPathWord ts ||
    (atWord "try" ts && atAnyOp ["!", "::"] (second ts))

def atom (r : Rules) (struct : Bool) : Parser Shape := do
  let ts ← ahead
  let as (shape : Shape) (p : Parser Unit) : Parser Shape := do
    p
    return shape
  if atLiteral ts then as .other literal
  else if atAsync ts then as .other (ofAsync r)
  else if atWord "try" ts && atGroup .brace (second ts) then as .block (ofTry r)
  else if atClosure ts then as .other (closure r struct)
  else if atWord "builtin" ts && atOp "#" (second ts) then as .other ofBuiltin
  else if atPath ts then ofPath r struct
  else if atGroup .parenthesis ts then as .other (arguments r)
  else if atWord "break" ts then as .other (ofBreak r struct)
  else if atWord "continue" ts then
    as .other do
      word "continue"
      discard lifetime?
  else if atAnyWord ["return", "yield"] ts then
    as .other do
      discard anyWord
      optional r
  else if atWord "become" ts then
    as .other do
      word "become"
      discard (r.expr true)
  else if atGroup .bracket ts then as .other (ofBracket r)
  else if atWord "let" ts then as .other (ofLet r struct)
  else if atAnyWord ["if", "while", "for", "loop", "match", "unsafe", "const"] ts || atGroup .brace ts ||
      atLifetime ts then
    as .block (blockForm r)
  else if atOp ".." ts then as .range (range r struct)
  else if atWord "_" ts then as .other (word "_")
  else fail

def reference (r : Rules) (struct : Bool) : Parser Unit := do
  op "&"
  let isRaw ← sees fun ts => atWord "raw" ts && atAnyWord ["mut", "const"] (second ts)
  if isRaw then word "raw"
  let mutable ← word? "mut"
  if isRaw && !mutable then word "const"
  discard (r.unary struct)

def unary (r : Rules) (struct : Bool) : Parser Shape := do
  let attrs ← Attributes.outer r
  let ts ← ahead
  if atOp "&" ts then
    reference r struct
    return .other
  match ["*", "!", "-"].find? (atOp · ts) with
  | some sign =>
    op sign
    discard (r.unary struct)
    return .other
  | none      =>
    let e ← atom r struct
    let e ← trailers r (← ahead).length e
    if e = .range && !attrs.isEmpty then failAt ts
    return e

def read (r : Rules) (struct : Bool) : Parser Shape := do
  let lhs ← unary r struct
  climb r struct Level.any lhs

end CollectionPlan.Grammar.Expr
