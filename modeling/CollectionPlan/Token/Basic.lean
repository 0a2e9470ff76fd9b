import CollectionPlan.Token.Word

namespace CollectionPlan

inductive Delimiter
  | parenthesis
  | bracket
  | brace
deriving DecidableEq, Repr

-- A token of a source text. A punctuation character is joint when it sticks to the one after it.
inductive Token
  | ident (word : Word)
  | punct (c : Char) (joint : Bool)
  | literal (text : String)
  | opening (d : Delimiter)
  | closing (d : Delimiter)
deriving DecidableEq, Repr

namespace Delimiter

def left : Delimiter → String
  | parenthesis => "("
  | bracket     => "["
  | brace       => "\x7b"

def right : Delimiter → String
  | parenthesis => ")"
  | bracket     => "]"
  | brace       => "\x7d"

end Delimiter

namespace Token

def text : Token → String
  | ident word    => word.text
  | punct c _     => String.singleton c
  | literal text  => text
  | opening d     => d.left
  | closing d     => d.right

-- Parentheses and brackets hug what is inside them, braces keep a space, and a joint character hugs
-- its successor.
def gap : Token → Token → String
  | opening .brace, _       => " "
  | opening _, _            => ""
  | _, closing .brace       => " "
  | _, closing _            => ""
  | punct _ true, _         => ""
  | _, _                    => " "

-- The text of a sequence of tokens: the tokens with one space between them, less the gaps that
-- delimiters and joint characters close.
def render : List Token → String
  | []           => ""
  | [t]          => t.text
  | t :: u :: ts => t.text ++ gap t u ++ render (u :: ts)

-- The characters of an operator, which stick together.
def operator : List Char → List Token
  | []           => []
  | [c]          => [punct c false]
  | c :: d :: cs => punct c true :: operator (d :: cs)

end Token

-- A token with the number of characters in front of it.
structure Placed where
  token  : Token
  offset : Nat
deriving DecidableEq, Repr

-- Lines count from one, columns from zero.
structure Position where
  line   : Nat
  column : Nat
deriving DecidableEq, Repr

namespace Position

def start : Position where
  line   := 1
  column := 0

def next (p : Position) (c : Char) : Position :=
  if c = '\n' then { line := p.line + 1, column := 0 } else { p with column := p.column + 1 }

def ofOffset (text : List Char) (offset : Nat) : Position :=
  (text.take offset).foldl next start

end Position
end CollectionPlan
