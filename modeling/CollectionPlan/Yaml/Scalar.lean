import CollectionPlan.Yaml.Number

namespace CollectionPlan.Yaml

-- Character classes.

def isBreak (c : Char) : Bool :=
  c = '\n' || c = '\r' || c = '\x85' || c = '\u2028' || c = '\u2029'

def isGap (c : Char) : Bool :=
  c = ' ' || c = '\t' || isBreak c

def isPrintable (c : Char) : Bool :=
  let n := c.toNat
  n = 0x0a || (0x20 ≤ n && n ≤ 0x7e) || (0xa0 ≤ n && n ≠ 0xfeff && n ≠ 0xfffe && n ≠ 0xffff)

-- Characters that cannot start an unquoted text.
def indicators : List Char :=
  ['#', ',', '[', ']', '\x7b', '\x7d', '&', '*', '!', '|', '>', '\'', '"', '%', '@', '`']

-- Characters that cannot start one if nothing but a gap follows.
def gapIndicators : List Char :=
  ['-', '?', ':']

def gapFollows (rest : List Char) : Bool :=
  rest.head?.all isGap

-- A colon before a gap and a hash behind one end an unquoted text.
def interrupts : List Char → Bool
  | c :: d :: cs =>
    (c = ':' && isGap d) || (isGap c && d = '#') || interrupts (d :: cs)
  | [c]          => c = ':'
  | []           => false

def startsMarker (cs : List Char) : Bool :=
  ['-', '-', '-'].isPrefixOf cs || ['.', '.', '.'].isPrefixOf cs

def hasIndicator : List Char → Bool
  | []      => false
  | c :: cs =>
    startsMarker (c :: cs) || indicators.contains c || (gapIndicators.contains c && gapFollows cs)
      || interrupts (c :: cs)

-- Whether a character of one class is right in front of one of the other.
def adjacent (p q : Char → Bool) : List Char → Bool
  | c :: d :: cs => (p c && q d) || adjacent p q (d :: cs)
  | _            => false

def isSpace (c : Char) : Bool :=
  c = ' '

-- How a text can be written.

inductive Style
  | plain
  | single
  | double
  | literal
deriving DecidableEq, Repr

namespace Style

def hasSpecial (cs : List Char) : Bool :=
  adjacent isSpace isBreak cs || cs.any (!isPrintable ·)

def allowsSingle (cs : List Char) : Bool :=
  !hasSpecial cs && !adjacent isBreak isSpace cs

def allowsLiteral (cs : List Char) : Bool :=
  !hasSpecial cs && cs.getLast? ≠ some ' '

def allowsPlain (cs : List Char) : Bool :=
  allowsSingle cs && cs.head? ≠ some ' ' && cs.getLast? ≠ some ' ' && !cs.any isBreak
    && !hasIndicator cs

end Style

-- Texts that mean something else without quotes.
def constants : List String :=
  ["", "null", "Null", "NULL", "~", "true", "True", "TRUE", "false", "False", "FALSE"]

def isReserved (s : String) : Bool :=
  constants.contains s || Number.isNumber s

-- A text with a line feed is written as a block if that keeps it as it is; all others are quoted
-- only where they have to be.
def Style.of (s : String) : Style :=
  let cs := s.toList
  if cs.contains '\n' then if allowsLiteral cs then literal else double
  else if !isReserved s && allowsPlain cs then plain
  else if allowsSingle cs then single
  else double

-- Writing.

def spaces (n : Nat) : List Char :=
  List.replicate n ' '

def upperHexDigit (n : Nat) : Char :=
  if n < 10 then Char.ofNat ('0'.toNat + n) else Char.ofNat ('A'.toNat + (n - 10))

-- The last `width` digits of `n`.
def upperHex : Nat → Nat → List Char
  | 0, _         => []
  | width + 1, n => upperHex width (n / 16) ++ [upperHexDigit (n % 16)]

def escapeCode (c : Char) : List Char :=
  let n := c.toNat
  if n ≤ 0xff then 'x' :: upperHex 2 n
  else if n ≤ 0xffff then 'u' :: upperHex 4 n
  else 'U' :: upperHex 8 n

-- Characters that have a letter of their own.
def escapeLetters : List (Char × Char) := [
  ('\x00', '0'), ('\x07', 'a'), ('\x08', 'b'), ('\t', 't'), ('\n', 'n'), ('\x0b', 'v'),
  ('\x0c', 'f'), ('\r', 'r'), ('\x1b', 'e'), ('"', '"'), ('\\', '\\'), ('\x85', 'N'),
  ('\u2028', 'L'), ('\u2029', 'P')]

def escapeChar (c : Char) : List Char :=
  match escapeLetters.lookup c with
  | some letter => ['\\', letter]
  | none        => if isPrintable c then [c] else '\\' :: escapeCode c

def doubled (cs : List Char) : List Char :=
  '"' :: cs.flatMap escapeChar ++ ['"']

-- The text goes on at the indentation behind a line break.
def singleBody (indent : Nat) (atStart : Bool) : List Char → List Char
  | []      => if atStart then spaces indent else []
  | c :: cs =>
    if isBreak c then c :: singleBody indent true cs
    else (if atStart then spaces indent else []) ++ (if c = '\'' then ['\'', '\''] else [c])
      ++ singleBody indent false cs

def singled (indent : Nat) (cs : List Char) : List Char :=
  '\'' :: singleBody indent false cs ++ ['\'']

-- The lines of a block, each of them ended.
def blockLines (indent : Nat) (atStart : Bool) : List Char → List Char
  | []      => if atStart then [] else ['\n']
  | c :: cs =>
    if isBreak c then c :: blockLines indent true cs
    else (if atStart then spaces indent else []) ++ c :: blockLines indent false cs

-- A block that starts with a gap tells its indentation.
def indentHint (cs : List Char) : List Char :=
  if cs.head?.any fun c => isSpace c || isBreak c then ['2'] else []

-- What becomes of the line breaks at the end of a block.
def chompHint (cs : List Char) : List Char :=
  match cs.reverse with
  | c :: d :: _ => if !isBreak c then ['-'] else if isBreak d then ['+'] else []
  | [c]         => if isBreak c then ['+'] else ['-']
  | []          => ['-']

def block (indent : Nat) (cs : List Char) : List Char :=
  '|' :: indentHint cs ++ chompHint cs ++ '\n' :: blockLines indent true cs

-- A text whose lines go on at the given indentation, with the end of its last line.
def scalar (indent : Nat) (s : String) : List Char :=
  let cs := s.toList
  match Style.of s with
  | .plain   => cs ++ ['\n']
  | .single  => singled indent cs ++ ['\n']
  | .double  => doubled cs ++ ['\n']
  | .literal => block indent cs

end CollectionPlan.Yaml
