import CollectionPlan.Text.Digits

-- Texts in quotes.
namespace CollectionPlan.Toml

-- Three quotes in a row enclose a text that can have several lines. In double quotes a backslash
-- starts an escape.
structure Quotes where
  mark   : Char
  triple : Bool
deriving DecidableEq, Repr

namespace Quotes

def isBlank (c : Char) : Bool :=
  c = ' ' || c = '\t'

-- Characters that stand for themselves; most control characters are refused.
def isPlain (c : Char) : Bool :=
  c = '\t' || (0x20 ≤ c.toNat && c.toNat ≠ 0x7f)

def codePoint? (digits : List Char) : Option Char := do
  let n ← Text.value? 16 digits
  if n.isValidChar then some (Char.ofNat n) else none

-- How many digits follow a letter that stands for a code.
def codeWidth? : Char → Option Nat
  | 'x' => some 2
  | 'u' => some 4
  | 'U' => some 8
  | _   => none

def escapeLetters : List (Char × Char) := [
  ('b', '\x08'), ('t', '\t'), ('n', '\n'), ('f', '\x0c'), ('r', '\r'), ('e', '\x1b'), ('"', '"'),
  ('\\', '\\')]

-- The character that an escape stands for, and what is behind it.
def escape? : List Char → Option (Char × List Char)
  | []      => none
  | c :: cs =>
    match codeWidth? c, escapeLetters.lookup c with
    | some width, _   =>
      if cs.length < width then none
      else (codePoint? (cs.take width)).map (·, cs.drop width)
    | none, some char => some (char, cs)
    | none, none      => none

-- A line end and what is behind it.
def afterNewline? : List Char → Option (List Char)
  | '\n' :: cs         => some cs
  | '\r' :: '\n' :: cs => some cs
  | _                  => none

-- A backslash at the end of a line joins the line with the next text.
def afterContinuation? (cs : List Char) : Option (List Char) :=
  (afterNewline? (cs.dropWhile isBlank)).map fun cs =>
    cs.dropWhile fun c => isBlank c || c = '\n' || c = '\r'

-- The quotes that end a text of several lines, and how many of them still belong to it.
def closing? (q : Quotes) (cs : List Char) : Option (Nat × List Char) :=
  let count := min 5 (cs.takeWhile (· = q.mark)).length
  if q.triple then if 3 ≤ count then some (count - 3, cs.drop count) else none
  else if 1 ≤ count then some (0, cs.drop 1) else none

def content? (q : Quotes) : Nat → List Char → Option (List Char × List Char)
  | 0, _           => none
  | _, []          => none
  | fuel + 1, c :: cs =>
    match closing? q (c :: cs) with
    | some (count, rest) => some (List.replicate count q.mark, rest)
    | none               =>
      if c = '\\' && q.mark = '"' then
        match escape? cs with
        | some (char, rest) => (content? q fuel rest).map fun (text, rest) => (char :: text, rest)
        | none              =>
          if q.triple then (afterContinuation? cs).bind (content? q fuel) else none
      else if isPlain c || (q.triple && c = '\n') then
        (content? q fuel cs).map fun (text, rest) => (c :: text, rest)
      else if q.triple && c = '\r' && cs.head? = some '\n' then
        (content? q fuel cs.tail).map fun (text, rest) => ('\r' :: '\n' :: text, rest)
      else none

-- A line end right behind three quotes is no part of the text.
def read? (q : Quotes) (cs : List Char) : Option (List Char × List Char) :=
  let cs := if q.triple then (afterNewline? cs).getD cs else cs
  content? q (cs.length + 1) cs

end Quotes

def isMark (c : Char) : Bool :=
  c = '"' || c = '\''

-- A quoted text of one line at the head of a text, and what is behind it.
def readLine? : List Char → Option (String × List Char)
  | c :: cs =>
    if isMark c then
      (Quotes.read? { mark := c, triple := false } cs).map fun (text, rest) => (String.ofList text, rest)
    else none
  | []      => none

-- A quoted text at the head of a text, and what is behind it.
def readText? : List Char → Option (String × List Char)
  | a :: b :: c :: cs =>
    if isMark a && a = b && b = c then
      (Quotes.read? { mark := a, triple := true } cs).map fun (text, rest) => (String.ofList text, rest)
    else readLine? (a :: b :: c :: cs)
  | cs                => readLine? cs

end CollectionPlan.Toml
