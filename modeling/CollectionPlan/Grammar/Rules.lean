import CollectionPlan.Grammar.Cursor
import CollectionPlan.Grammar.Tree

namespace CollectionPlan.Grammar

-- What other rules ask about an expression that was read.
inductive Shape
  -- Complete without a separator behind it, both as a statement and as a match arm.
  | block
  -- Complete as a statement only if its group is one of braces.
  | macroCall (braced : Bool)
  | range
  | comparison
  | other
deriving DecidableEq, Repr

namespace Shape

def isStatement : Shape → Bool
  | block            => true
  | macroCall braced => braced
  | _                => false

end Shape

-- The rules that refer to each other. Each may assume that the others work on fewer tokens.
structure Rules where
  -- A type, with a sum of bounds if `plus` is set.
  type       : (plus : Bool) → Parser TypeTree
  bound      : (capture const : Bool) → Parser Bool
  pattern    : Parser (Option (List Placed))
  -- An expression, with a struct literal at its top if `struct` is set.
  expr       : (struct : Bool) → Parser Shape
  unary      : (struct : Bool) → Parser Shape
  -- An expression as it stands in a statement or a match arm.
  early      : Parser Shape
  climb      : (struct : Bool) → (base : Nat) → Shape → Parser Shape
  statements : Parser Unit
  -- Statements behind attributes of the group that they stand in.
  body       : Parser Unit
  item       : Parser (Option TypeItem)
  useTree    : (root : Bool) → Parser Unit

end CollectionPlan.Grammar
