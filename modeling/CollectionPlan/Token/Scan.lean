import CollectionPlan.Text.Quoted
import CollectionPlan.Token.Basic
import CollectionPlan.Token.Lexeme

namespace CollectionPlan.Token

def opening? : Char → Option Delimiter
  | '('    => some .parenthesis
  | '['    => some .bracket
  | '\x7b' => some .brace
  | _      => none

def closing? : Char → Option Delimiter
  | ')'    => some .parenthesis
  | ']'    => some .bracket
  | '\x7d' => some .brace
  | _      => none

-- Documentation comments stay, so only a comment of another form can be skipped.
def comment? (cs : List Char) : Option Nat :=
  match cs with
  | '/' :: '/' :: '/' :: '/' :: _ => some (Lexeme.lineEnd 0 cs).2
  | '/' :: '/' :: '/' :: _        => none
  | '/' :: '/' :: '!' :: _        => none
  | '/' :: '/' :: _               => some (Lexeme.lineEnd 0 cs).2
  | '/' :: '*' :: '*' :: '/' :: _ => some 4
  | '/' :: '*' :: '*' :: '*' :: _ => Lexeme.block? cs
  | '/' :: '*' :: '*' :: _        => none
  | '/' :: '*' :: '!' :: _        => none
  | '/' :: '*' :: _               => Lexeme.block? cs
  | _                             => none

-- How many characters at the head of a text are blanks and comments.
def skipped : Nat → Nat → List Char → Nat
  | 0, n, _         => n
  | _, n, []        => n
  | fuel + 1, n, c :: rest =>
    match comment? (c :: rest) with
    | some k => skipped fuel (n + k) ((c :: rest).drop k)
    | none   => if Lexeme.isSpace c then skipped fuel (n + 1) rest else n

-- A documentation comment: whether it belongs to what it stands in, its text and its extent.
structure DocComment where
  inner  : Bool
  text   : List Char
  extent : Nat
deriving Repr

namespace DocComment

def ofLine (inner : Bool) (cs : List Char) : DocComment :=
  let (length, extent) := Lexeme.lineEnd 0 (cs.drop 3)
  { inner, text := (cs.drop 3).take length, extent := extent + 3 }

def ofBlock? (inner : Bool) (cs : List Char) : Option DocComment :=
  (Lexeme.block? cs).map fun extent =>
    { inner, text := (cs.drop 3).take (extent - 5), extent }

def parse? (cs : List Char) : Option DocComment :=
  match cs with
  | '/' :: '/' :: '!' :: _        => some (ofLine true cs)
  | '/' :: '*' :: '!' :: _        => ofBlock? true cs
  | '/' :: '/' :: '/' :: '/' :: _ => none
  | '/' :: '/' :: '/' :: _        => some (ofLine false cs)
  | '/' :: '*' :: '*' :: '*' :: _ => none
  | '/' :: '*' :: '*' :: _        => ofBlock? false cs
  | _                             => none

-- A carriage return is only allowed in front of a line feed.
def hasBareReturn : List Char → Bool
  | []                  => false
  | '\r' :: '\n' :: rest => hasBareReturn rest
  | c :: rest           => c = '\r' || hasBareReturn rest

def isOctalDigit (c : Char) : Bool :=
  '0' ≤ c && c ≤ '7'

-- A NUL in front of a digit is written by its full code.
def escape : List Char → List Char
  | []        => []
  | c :: rest =>
    (if c = '\x00' && rest.head?.any isOctalDigit then ['\\', 'x', '0', '0'] else Text.escapeChar c)
      ++ escape rest

def literal (text : List Char) : Token :=
  .literal (String.ofList ('"' :: escape text ++ ['"']))

-- The attribute that a documentation comment stands for.
def tokens (d : DocComment) : List Token :=
  [.punct '#' false] ++ (if d.inner then [.punct '!' false] else [])
    ++ [.opening .bracket, .ident ⟨"doc", by decide⟩, .punct '=' false, literal d.text, .closing .bracket]

end DocComment

-- The mark of a literal that could not be formed counts as a literal.
def brokenLiteral : List Char := "(/*ERROR*/)".toList

def broken? (cs : List Char) : Option Nat :=
  if brokenLiteral.isPrefixOf cs then some brokenLiteral.length else none

-- An apostrophe is a token only in front of a name, and sticks to it.
def apostrophe? (rest : List Char) : Option Token := do
  let n ← Lexeme.anyIdent? rest
  match rest.drop n with
  | '\'' :: _ => none
  | '#' :: _  => if ['r', '#'].isPrefixOf rest then some (.punct '\'' true) else none
  | _         => some (.punct '\'' true)

def punct? : List Char → Option Token
  | '\'' :: rest => apostrophe? rest
  | c :: rest    =>
    if Lexeme.isPunct (c :: rest) then some (.punct c (Lexeme.isPunct rest)) else none
  | []           => none

-- The token other than a delimiter at the head of a text, with its extent.
def leaf? (cs : List Char) : Option (Token × Nat) :=
  let taken (n : Nat) := String.ofList (cs.take n)
  (Lexeme.literal? cs).map (fun n => (.literal (taken n), n))
    <|> (punct? cs).map (fun t => (t, 1))
    <|> (Word.read? cs).map (fun (w, n) => (.ident w, n))
    <|> (broken? cs).map (fun n => (.literal (taken n), n))

-- The delimiters that are open, the innermost first, each with its place.
abbrev Open := List (Delimiter × Nat)

-- One token or one documentation comment; an error is the place of what cannot be read.
def step (open_ : Open) (offset : Nat) (cs : List Char) :
    Except Nat (Open × List Token × Nat) :=
  match DocComment.parse? cs with
  | some d =>
    if DocComment.hasBareReturn d.text then .error offset else .ok (open_, d.tokens, d.extent)
  | none   =>
    match cs with
    | []     => .error offset
    | c :: _ =>
      match (if (broken? cs).isSome then none else opening? c), closing? c with
      | some d, _    => .ok ((d, offset) :: open_, [.opening d], 1)
      | none, some d =>
        match open_ with
        | (e, _) :: outer => if d = e then .ok (outer, [.closing d], 1) else .error offset
        | []              => .error offset
      | none, none   =>
        match leaf? cs with
        | some (t, n) => .ok (open_, [t], n)
        | none        => .error offset

def scanFrom : Nat → Open → Nat → List Char → Except Nat (List Placed)
  | 0, _, offset, _          => .error offset
  | fuel + 1, open_, start, cs => do
    let blank := skipped fuel 0 cs
    let offset := start + blank
    match cs.drop blank with
    | []        =>
      match open_ with
      | []              => return []
      | (_, place) :: _ => throw place
    | c :: rest =>
      let (open_, tokens, n) ← step open_ offset (c :: rest)
      let placed ← scanFrom fuel open_ (offset + n) ((c :: rest).drop n)
      return tokens.map (⟨·, offset⟩) ++ placed

def byteOrderMark : Char := '\ufeff'

-- The tokens of a text, delimiters balanced, or the place where it stops being one.
def scan (cs : List Char) : Except Nat (List Placed) :=
  let marked := cs.head?.any (· = byteOrderMark)
  scanFrom (cs.length + 1) [] (if marked then 1 else 0) (if marked then cs.tail else cs)

end CollectionPlan.Token
