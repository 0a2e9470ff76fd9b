import CollectionPlan.Token.Basic
import CollectionPlan.Token.Lexeme

namespace CollectionPlan.TextLiteral

-- The character that a letter behind a backslash stands for.
def escaped : Char → Char
  | 'n' => '\n'
  | 'r' => '\r'
  | 't' => '\t'
  | '0' => '\x00'
  | c   => c

-- The content up to the closing quote. A line end is a line feed, and one behind a backslash counts
-- for nothing, together with all blanks behind it.
def cooked : Nat → List Char → List Char
  | 0, _               => []
  | _, []              => []
  | fuel + 1, c :: rest =>
    if c = '"' then []
    else if c = '\r' then '\n' :: cooked fuel rest.tail
    else if c = '\\' then
      match rest with
      | 'x' :: a :: b :: rest =>
        Char.ofNat (Text.hexValue a * 16 + Text.hexValue b) :: cooked fuel rest
      | 'u' :: '\x7b' :: rest =>
        match Lexeme.codePoint? 0 0 0 rest with
        | some (value, n) => Char.ofNat value :: cooked fuel (rest.drop n)
        | none            => []
      | '\n' :: rest | '\r' :: rest => cooked fuel (rest.dropWhile Text.isBlank)
      | d :: rest => escaped d :: cooked fuel rest
      | []        => []
    else c :: cooked fuel rest

-- The content between the hashes of a raw text, which is taken as it stands.
def rawContent (cs : List Char) : List Char :=
  let hashes := (cs.takeWhile (· = '#')).length
  let body := cs.drop (hashes + 1)
  (body.reverse.dropWhile (· ≠ '"')).tail.reverse

-- The value of a literal that stands for a text.
def value? (literal : String) : Option String :=
  match literal.toList with
  | '"' :: rest => some (String.ofList (cooked rest.length rest))
  | 'r' :: rest => some (String.ofList (rawContent rest))
  | _           => none

end CollectionPlan.TextLiteral
