import CollectionPlan.Text.Blank
import CollectionPlan.Text.Identifier

-- Each function here tells how many characters a lexeme takes at the head of a text.
namespace CollectionPlan.Lexeme

-- An identifier that is not raw.
def name? : List Char → Option Nat
  | []        => none
  | c :: rest =>
    if Text.isIdentStart c then some (1 + (rest.takeWhile Text.isIdentContinue).length) else none

-- The suffix of a literal, which may be missing.
def suffix (cs : List Char) : Nat :=
  (name? cs).getD 0

def neverRaw : List String :=
  ["_", "super", "self", "Self", "crate"]

def anyIdent? : List Char → Option Nat
  | 'r' :: '#' :: rest => do
    let n ← name? rest
    if neverRaw.contains (String.ofList (rest.take n)) then none else some (n + 2)
  | cs => name? cs

-- What starts like a literal is no identifier.
def literalStarts : List (List Char) :=
  [['r', '"'], ['r', '#', '"'], ['r', '#', '#'], ['b', '"'], ['b', '\''], ['b', 'r', '"'],
    ['b', 'r', '#'], ['c', '"'], ['c', 'r', '"'], ['c', 'r', '#']]

def ident? (cs : List Char) : Option Nat :=
  if literalStarts.any (·.isPrefixOf cs) then none else anyIdent? cs

-- Plain text, bytes, and text that ends at its first NUL.
inductive Alphabet
  | text
  | bytes
  | terminated
deriving DecidableEq

def Alphabet.admits (c : Char) : Alphabet → Bool
  | text       => true
  | bytes      => c.toNat < 128
  | terminated => c ≠ '\x00'

-- The code between the braces of an escape, with the number of characters up to the closing one.
def codePoint? (digits value count : Nat) : List Char → Option (Nat × Nat)
  | []        => none
  | c :: rest =>
    if c = '\x7d' then (if digits = 0 || !value.isValidChar then none else some (value, count + 1))
    else if c = '_' then (if digits = 0 then none else codePoint? digits value (count + 1) rest)
    else if Text.isHexDigit c && digits < 6 then
      codePoint? (digits + 1) (value * 16 + Text.hexValue c) (count + 1) rest
    else none

-- What follows a backslash, line continuations apart.
def escape? (alphabet : Alphabet) : List Char → Option Nat
  | 'x' :: a :: b :: _ =>
    match alphabet with
    | .text       => if '0' ≤ a && a ≤ '7' && Text.isHexDigit b then some 3 else none
    | .bytes      => if Text.isHexDigit a && Text.isHexDigit b then some 3 else none
    | .terminated => if Text.isHexDigit a && Text.isHexDigit b && !(a = '0' && b = '0') then some 3 else none
  | 'u' :: '\x7b' :: rest =>
    match alphabet, codePoint? 0 0 2 rest with
    | .text, some (_, n)           => some n
    | .terminated, some (value, n) => if value = 0 then none else some n
    | _, _                         => none
  | '0' :: _ => if alphabet = .terminated then none else some 1
  | c :: _   => if ['n', 'r', 't', '\\', '\'', '"'].contains c then some 1 else none
  | []       => none

-- A line continuation takes all blanks up to the next character, which has to exist.
def continuation? (count : Nat) : List Char → Option Nat
  | []                  => none
  | '\r' :: '\n' :: rest => continuation? (count + 2) rest
  | c :: rest           =>
    if c = '\r' then none
    else if c = ' ' || c = '\t' || c = '\n' then continuation? (count + 1) rest
    else some count

-- From behind the opening quote to behind the suffix.
def cooked? (alphabet : Alphabet) : Nat → Nat → List Char → Option Nat
  | _, _, []            => none
  | 0, _, _             => none
  | fuel + 1, n, c :: rest =>
    if c = '"' then some (n + 1 + suffix rest)
    else if c = '\r' then
      match rest with
      | '\n' :: rest => cooked? alphabet fuel (n + 2) rest
      | _            => none
    else if c = '\\' then
      let step := match rest with
        | '\n' :: _ | '\r' :: _ => continuation? 0 rest
        | _                     => escape? alphabet rest
      match step with
      | some k => cooked? alphabet fuel (n + 1 + k) (rest.drop k)
      | none   => none
    else if alphabet.admits c then cooked? alphabet fuel (n + 1) rest
    else none

-- From behind the opening quote of a raw text to behind the suffix.
def rawBody? (alphabet : Alphabet) (hashes : List Char) : Nat → List Char → Option Nat
  | _, []        => none
  | n, '\r' :: '\n' :: rest => rawBody? alphabet hashes (n + 2) rest
  | n, c :: rest =>
    if c = '"' && hashes.isPrefixOf rest then
      some (n + 1 + hashes.length + suffix (rest.drop hashes.length))
    else if c = '\r' || !alphabet.admits c then none
    else rawBody? alphabet hashes (n + 1) rest

-- At most 255 hashes stand in front of a raw text.
def raw? (alphabet : Alphabet) (start : Nat) (cs : List Char) : Option Nat :=
  let hashes := cs.takeWhile (· = '#')
  match cs.drop hashes.length with
  | '"' :: rest =>
    if hashes.length > 255 then none else rawBody? alphabet hashes (start + hashes.length + 1) rest
  | _ => none

def quote? (n : Nat) : List Char → Option Nat
  | '\'' :: rest => some (n + 1 + suffix rest)
  | _            => none

def character? (alphabet : Alphabet) (start : Nat) : List Char → Option Nat
  | '\\' :: rest => do
    let k ← escape? alphabet rest
    quote? (start + 1 + k) (rest.drop k)
  | c :: rest => if alphabet.admits c then quote? (start + 1) rest else none
  | []        => none

def text? (cs : List Char) : Option Nat :=
  match cs with
  | '"' :: rest               => cooked? .text rest.length 1 rest
  | 'r' :: rest               => raw? .text 1 rest
  | 'b' :: '"' :: rest        => cooked? .bytes rest.length 2 rest
  | 'b' :: 'r' :: rest        => raw? .bytes 2 rest
  | 'c' :: '"' :: rest        => cooked? .terminated rest.length 2 rest
  | 'c' :: 'r' :: rest        => raw? .terminated 2 rest
  | 'b' :: '\'' :: rest       => character? .bytes 2 rest
  | '\'' :: rest              => character? .text 1 rest
  | _                         => none

-- Digits are grouped by underscores.
def isGroupedDigit (c : Char) : Bool :=
  Text.isAsciiDigit c || c = '_'

-- An exponent behind its letter: an optional sign and at least one digit.
def exponent? (cs : List Char) : Option Nat :=
  let blanks := (cs.takeWhile (· = '_')).length
  let rest := cs.drop blanks
  let sign := match rest with
    | '+' :: _ | '-' :: _ => 1
    | _                   => 0
  let digits := (rest.drop sign).takeWhile isGroupedDigit
  if digits.any Text.isAsciiDigit then
    -- A sign has to stand in front of all digits.
    some (blanks + sign + digits.length)
  else none

-- A decimal with a point, an exponent or both, without its suffix.
def decimal? (cs : List Char) : Option Nat :=
  match cs with
  | []     => none
  | c :: _ =>
    if !Text.isAsciiDigit c then none
    else
      let whole := (cs.takeWhile isGroupedDigit).length
      match cs.drop whole with
      | '.' :: rest =>
        if rest.head?.any fun c => c = '.' || Text.isIdentStart c then none
        else
          let part := whole + 1 + (rest.takeWhile isGroupedDigit).length
          match cs.drop part with
          | e :: rest =>
            if e = 'e' || e = 'E' then some ((exponent? rest).elim part (part + 1 + ·)) else some part
          | [] => some part
      | e :: rest => if e = 'e' || e = 'E' then (exponent? rest).map (whole + 1 + ·) else none
      | []        => none

-- The digits of an integer in base `base`. A decimal digit that is too large for the base is an
-- error, a letter ends the digits.
def digits? (base : Nat) (count : Nat) (empty : Bool) : List Char → Option Nat
  | []        => if empty then none else some count
  | c :: rest =>
    if Text.isAsciiDigit c then
      if Text.hexValue c < base then digits? base (count + 1) false rest else none
    else if Text.isHexDigit c && Text.hexValue c < base then digits? base (count + 1) false rest
    else if c = '_' then (if empty && base = 10 then none else digits? base (count + 1) empty rest)
    else if empty then none
    else some count

def integer? (cs : List Char) : Option Nat :=
  match cs with
  | '0' :: 'x' :: rest => digits? 16 2 true rest
  | '0' :: 'o' :: rest => digits? 8 2 true rest
  | '0' :: 'b' :: rest => digits? 2 2 true rest
  | _                  => digits? 10 0 true cs

-- A number with its suffix; no further word character may follow.
def number? (cs : List Char) : Option Nat :=
  (decimal? cs >>= complete) <|> (integer? cs >>= complete)
where
  complete (n : Nat) : Option Nat :=
    let n := n + suffix (cs.drop n)
    if (cs.drop n).head?.any Text.isIdentContinue then none else some n

def literal? (cs : List Char) : Option Nat :=
  text? cs <|> number? cs

def punctuation : List Char :=
  "~!@#$%^&*-=+|;:,<.>/?'".toList

-- The slash that starts a comment is no punctuation.
def isPunct : List Char → Bool
  | '/' :: '/' :: _ | '/' :: '*' :: _ => false
  | c :: _                            => punctuation.contains c
  | []                                => false

-- From behind the opening of a block comment to behind its end; comments nest.
def blockEnd? (depth n : Nat) : List Char → Option Nat
  | '/' :: '*' :: rest => blockEnd? (depth + 1) (n + 2) rest
  | '*' :: '/' :: rest => if depth = 0 then some (n + 2) else blockEnd? (depth - 1) (n + 2) rest
  | _ :: rest          => blockEnd? depth (n + 1) rest
  | []                 => none

def block? : List Char → Option Nat
  | '/' :: '*' :: rest => blockEnd? 0 2 rest
  | _                  => none

-- A line without its end, and the number of characters up to the line feed.
def lineEnd (n : Nat) : List Char → Nat × Nat
  | '\r' :: '\n' :: _ => (n, n + 1)
  | '\n' :: _         => (n, n)
  | _ :: rest         => lineEnd (n + 1) rest
  | []                => (n, n)

-- Blank for the purposes of the grammar: white space and the two direction marks.
def isSpace (c : Char) : Bool :=
  Text.isBlank c || c = '\u200e' || c = '\u200f'

end CollectionPlan.Lexeme
