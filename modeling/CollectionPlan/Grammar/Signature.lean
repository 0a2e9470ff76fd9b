import CollectionPlan.Grammar.Type

namespace CollectionPlan.Grammar

namespace Visibility

-- What stands between parentheses if they restrict a visibility.
def restriction : Parser Unit := do
  if ← sees (atAnyWord ["crate", "self", "super"]) then
    discard anyWord
    if !(← sees atEnd) then fail
  else
    word "in"
    discard modPath

-- Parentheses that cannot be read as a restriction belong to what follows.
def read : Parser Bool :=
  whenSees (atWord "pub") do
    word "pub"
    if ← sees (atGroup .parenthesis) then
      let ts ← ahead
      if atWord "in" ts.tail then inside .parenthesis restriction
      else discard (attempt (inside .parenthesis restriction))

end Visibility

namespace Signature

def behindWord (w : String) (ts : List Placed) : List Placed :=
  if atWord w ts then ts.tail else ts

def behindAbi (ts : List Placed) : List Placed :=
  if !atWord "extern" ts then ts
  else if atTextLiteral ts.tail then ts.tail.tail
  else ts.tail

-- Whether the signature of a function is ahead. Foreign ones can be marked as safe.
def ahead? (safe : Bool) (ts : List Placed) : Bool :=
  let ts := behindWord "async" (behindWord "const" ts)
  let ts := if safe && atWord "safe" ts then ts.tail else behindWord "unsafe" ts
  atWord "fn" (behindAbi ts)

-- The receiver of a method; the answer is its place.
def receiver (r : Rules) : Parser (List Placed) := do
  let reference ← op? "&"
  if reference then discard lifetime?
  discard (word? "mut")
  let place ← ahead
  word "self"
  if !reference then
    if ← op? ":" then discard (r.type true)
  return place

def lastComma : Parser Unit := do
  if !(← sees atEnd) then op ","

-- Parameters; a receiver has to be the first one.
def params (r : Rules) (first : Bool) : Nat → Parser Unit
  | 0        => return
  | fuel + 1 => do
    if ← sees atEnd then return
    discard (Attributes.outer r)
    if ← op? "..." then return ← lastComma
    match ← attempt (receiver r) with
    | some place => if !first then failAt place
    | none       =>
      if ← sees fun ts => atIdent ts && atOp "<" (second ts) then discard (r.type true)
      else
        discard r.pattern
        op ":"
        if ← op? "..." then return ← lastComma
        discard (r.type true)
    if ← sees atEnd then return
    op ","
    params r false fuel

def read (r : Rules) (safe : Bool) : Parser Unit := do
  discard (word? "const")
  discard (word? "async")
  if !(← word? "unsafe") && safe then discard (word? "safe")
  discard Type.abi
  word "fn"
  discard ident
  discard (Generics.read r)
  inside .parenthesis do params r true (← ahead).length
  Type.result r true
  discard (WhereClause.read r)

end Signature
end CollectionPlan.Grammar
