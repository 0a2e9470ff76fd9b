import CollectionPlan.Token.Basic

namespace CollectionPlan.Grammar

-- Where a text stops being well formed: at a token, or because it ends too early.
inductive Fault
  | token (offset : Nat)
  | ending
deriving DecidableEq, Repr

-- The tokens still to be read. A group that holds more than it should is remembered by the first
-- token too much; it is at fault only if nothing else is. What was read is kept as it is written
-- again, the latest token first.
structure Cursor where
  input    : List Placed
  leftover : Option Nat := none
  written  : List Token := []
deriving Repr

abbrev Parser := StateT Cursor (Except Fault)

-- Questions about the tokens ahead.

def atEnd : List Placed → Bool
  | []                  => true
  | ⟨.closing _, _⟩ :: _ => true
  | _                   => false

-- The tokens behind an operator, whose characters have to stick together.
def afterOperator? : List Char → List Placed → Option (List Placed)
  | [c], ⟨.punct d _, _⟩ :: ts        => if c = d then some ts else none
  | c :: cs, ⟨.punct d true, _⟩ :: ts => if c = d then afterOperator? cs ts else none
  | _, _                              => none

def atOp (op : String) (ts : List Placed) : Bool :=
  (afterOperator? op.toList ts).isSome

def atAnyOp (ops : List String) (ts : List Placed) : Bool :=
  ops.any (atOp · ts)

-- A colon that is not half of a double colon.
def atColon (ts : List Placed) : Bool :=
  atOp ":" ts && !atOp "::" ts

def headWord? : List Placed → Option Word
  | ⟨.ident w, _⟩ :: _ => some w
  | _                 => none

def atWord (w : String) (ts : List Placed) : Bool :=
  (headWord? ts).any (·.text = w)

def atAnyWord (ws : List String) (ts : List Placed) : Bool :=
  ws.any (atWord · ts)

def atIdent (ts : List Placed) : Bool :=
  (headWord? ts).any (·.isIdentifier)

def atLifetime : List Placed → Bool
  | ⟨.punct '\'' _, _⟩ :: ⟨.ident _, _⟩ :: _ => true
  | _                                      => false

def atGroup (d : Delimiter) : List Placed → Bool
  | ⟨.opening e, _⟩ :: _ => d = e
  | _                   => false

def atAnyGroup (ts : List Placed) : Bool :=
  atGroup .parenthesis ts || atGroup .bracket ts || atGroup .brace ts

def isNumber (text : String) : Bool :=
  text.toList.head?.any Text.isAsciiDigit

-- A literal with the tokens behind it. A sign belongs to the number that follows it.
def literal? : List Placed → Option (List Token × List Placed)
  | ⟨.literal text, _⟩ :: ts                      => some ([.literal text], ts)
  | ⟨.ident w, _⟩ :: ts                           =>
    if w.text = "true" || w.text = "false" then some ([.ident w], ts) else none
  | ⟨.punct '-' _, _⟩ :: ⟨.literal text, _⟩ :: ts =>
    if isNumber text then some ([.punct '-' false, .literal text], ts) else none
  | _                                             => none

def atLiteral (ts : List Placed) : Bool :=
  (literal? ts).isSome

-- The value of digits that can be grouped by underscores.
def grouped? (base : Nat) (cs : List Char) : Option Nat :=
  Text.value? base (cs.filter (· ≠ '_'))

-- Positions have 32 bits.
def positionBound : Nat := 0x100000000

-- The position that a whole number without a suffix stands for.
def position? (text : String) : Option Nat := do
  let n ← match text.toList with
    | '0' :: 'x' :: cs => grouped? 16 cs
    | '0' :: 'o' :: cs => grouped? 8 cs
    | '0' :: 'b' :: cs => grouped? 2 cs
    | cs               => grouped? 10 cs
  if n < positionBound then some n else none

def isTextLiteral (text : String) : Bool :=
  match text.toList with
  | '"' :: _ | 'r' :: _ => true
  | _                   => false

def atTextLiteral : List Placed → Bool
  | ⟨.literal text, _⟩ :: _ => isTextLiteral text
  | _                      => false

-- The content of a group behind its opening delimiter, and what starts with its closing one.
def splitGroup : Nat → List Placed → List Placed × List Placed
  | _, []          => ([], [])
  | depth, t :: ts =>
    match t.token, depth with
    | .closing _, 0         => ([], t :: ts)
    | .closing _, depth + 1 => let (content, rest) := splitGroup depth ts; (t :: content, rest)
    | .opening _, depth     => let (content, rest) := splitGroup (depth + 1) ts; (t :: content, rest)
    | _, depth              => let (content, rest) := splitGroup depth ts; (t :: content, rest)

-- The tokens behind the first group, lifetime or single token.
def skipTree : List Placed → List Placed
  | ⟨.opening _, _⟩ :: ts                   => (splitGroup 0 ts).2.tail
  | ⟨.punct '\'' _, _⟩ :: ⟨.ident _, _⟩ :: ts => ts
  | _ :: ts                                => ts
  | []                                     => []

def second (ts : List Placed) : List Placed :=
  if atEnd ts then [] else skipTree ts

def third (ts : List Placed) : List Placed :=
  second (second ts)

-- Basic steps.

def faultAt : List Placed → Fault
  | t :: _ => .token t.offset
  | []     => .ending

def fail : Parser α :=
  fun c => .error (faultAt c.input)

-- Fails at the start of something that was read already.
def failAt (start : List Placed) : Parser α :=
  fun _ => .error (faultAt start)

def ahead : Parser (List Placed) :=
  return (← get).input

def sees (p : List Placed → Bool) : Parser Bool :=
  return p (← get).input

def advance (rest : List Placed) (tokens : List Token) : Parser Unit :=
  modify fun c => { c with input := rest, written := tokens.reverse ++ c.written }

-- Reads what `p` reads, or nothing if it cannot.
def attempt (p : Parser α) : Parser (Option α) :=
  fun c =>
    match p c with
    | .ok (a, c) => .ok (some a, c)
    | .error _   => .ok (none, c)

-- The tokens behind what `p` reads, if it can; nothing is taken.
def behind? (p : Parser α) : Parser (Option (List Placed)) :=
  fun c => .ok ((p c).toOption.map (·.2.input), c)

def op (text : String) : Parser Unit := do
  match afterOperator? text.toList (← ahead) with
  | some rest => advance rest (Token.operator text.toList)
  | none      => fail

def word (w : String) : Parser Unit := do
  match ← ahead with
  | ⟨.ident v, _⟩ :: rest => if v.text = w then advance rest [.ident v] else fail
  | _                    => fail

def anyWord : Parser Word := do
  match ← ahead with
  | ⟨.ident w, _⟩ :: rest =>
    advance rest [.ident w]
    return w
  | _                    => fail

def ident : Parser Identifier := do
  match (headWord? (← ahead)).bind (·.identifier?) with
  | some i =>
    discard anyWord
    return i
  | none   => fail

def lifetime : Parser Unit := do
  match ← ahead with
  | ⟨.punct '\'' _, _⟩ :: ⟨.ident w, _⟩ :: rest => advance rest [.punct '\'' true, .ident w]
  | _                                         => fail

def literal : Parser Unit := do
  match literal? (← ahead) with
  | some (tokens, rest) => advance rest tokens
  | none                => fail

def position : Parser Unit := do
  match ← ahead with
  | ⟨.literal text, _⟩ :: rest =>
    match position? text with
    | some n => advance rest [.literal (toString n)]
    | none   => fail
  | _                         => fail

-- The name or the position of a field; the answer is whether it is a name.
def member : Parser Bool := do
  if ← sees atIdent then
    discard ident
    return true
  position
  return false

def textLiteral : Parser Unit := do
  if ← sees atTextLiteral then literal else fail

-- Reads with `p` if the tokens ahead allow for it, and tells whether they did.
def whenSees (q : List Placed → Bool) (p : Parser α) : Parser Bool := do
  if ← sees q then
    discard p
    return true
  return false

def op? (text : String) : Parser Bool :=
  whenSees (atOp text) (op text)

def word? (w : String) : Parser Bool :=
  whenSees (atWord w) (word w)

def lifetime? : Parser Bool :=
  whenSees atLifetime lifetime

-- Groups.

def openGroup (d : Delimiter) : Parser Unit := do
  match ← ahead with
  | ⟨.opening e, _⟩ :: rest => if d = e then advance rest [.opening d] else fail
  | _                      => fail

def closeGroup (d : Delimiter) : Parser Unit := do
  let input ← ahead
  if !atEnd input then
    modify fun c => { c with leftover := c.leftover <|> input.head?.map (·.offset) }
  advance (splitGroup 0 input).2.tail [.closing d]

def inside (d : Delimiter) (p : Parser α) : Parser α := do
  openGroup d
  let a ← p
  closeGroup d
  return a

-- All that is left of a group, kept as it stands.
def raw : Parser (List Token) := do
  let (content, rest) := splitGroup 0 (← ahead)
  let tokens := content.map (·.token)
  advance rest tokens
  return tokens

def delimiter? : List Placed → Option Delimiter
  | ⟨.opening d, _⟩ :: _ => some d
  | _                   => none

-- A group of any kind and its content.
def anyGroup : Parser (Delimiter × List Token) := do
  match delimiter? (← ahead) with
  | some d => return (d, ← inside d raw)
  | none   => fail

-- Repetition. Each round reads something, so there are at most as many rounds as tokens.

def repeatWhile (q : List Placed → Bool) (p : Parser α) : Parser (List α) := do
  go (← ahead).length
where
  go : Nat → Parser (List α)
    | 0        => return []
    | fuel + 1 => do
      if ← sees q then
        let a ← p
        let as ← go fuel
        return a :: as
      return []

def untilEnd (p : Parser α) : Parser (List α) :=
  repeatWhile (!atEnd ·) p

-- Elements with a separator between them, up to a token that satisfies `stop`.
def separated (separator : String) (stop : List Placed → Bool) (p : Parser α) : Parser (List α) := do
  go (← ahead).length
where
  go : Nat → Parser (List α)
    | 0        => return []
    | fuel + 1 => do
      if ← sees stop then return []
      let a ← p
      if ← sees stop then return [a]
      op separator
      let as ← go fuel
      return a :: as

def list (p : Parser α) : Parser (List α) :=
  separated "," atEnd p

-- Elements that go on only behind a separator; one at the end is allowed.
def chained (separator : String) (stop : List Placed → Bool) (p : Parser α) : Parser (List α) := do
  go (← ahead).length
where
  go : Nat → Parser (List α)
    | 0        => return []
    | fuel + 1 => do
      if ← sees stop then return []
      let a ← p
      if !(← op? separator) then return [a]
      let as ← go fuel
      return a :: as

-- What `p` reads, as it is written again.
def capture (p : Parser α) : Parser (α × List Token) := do
  let outer := (← get).written
  modify ({ · with written := [] })
  let a ← p
  let inner := (← get).written
  modify ({ · with written := inner ++ outer })
  return (a, inner.reverse)

-- Reads with `p`, and writes what `f` makes of the result.
def writtenAs (f : α → List Token) (p : Parser α) : Parser α := do
  let outer := (← get).written
  let a ← p
  modify ({ · with written := (f a).reverse ++ outer })
  return a

-- What was read since `start`, as it stands.
def since (start : List Placed) : Parser (List Token) := do
  return (start.take (start.length - (← ahead).length)).map (·.token)

end CollectionPlan.Grammar
