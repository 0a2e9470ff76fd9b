import CollectionPlan.Toml.Quoted
import CollectionPlan.Toml.Scalar

namespace CollectionPlan.Toml

abbrev Reader := StateT (List Char) Option

namespace Reader

def eat (c : Char) : Reader Unit := do
  match ← get with
  | d :: cs => if c = d then set cs else failure
  | []      => failure

-- Reads a character if it is the next one, and tells whether it was.
def eat? (c : Char) : Reader Bool := do
  if (← get).head? = some c then
    eat c
    return true
  return false

def skipBlanks : Reader Unit :=
  modify (·.dropWhile Quotes.isBlank)

-- A comment reaches up to the end of its line.
def skipComment : Reader Unit := do
  if (← get).head? = some '#' then modify (·.dropWhile Quotes.isPlain)

def newline? : Reader Bool := do
  match Quotes.afterNewline? (← get) with
  | some cs =>
    set cs
    return true
  | none    => return false

-- The rest of a line, which has nothing but a comment.
def endLine : Reader Unit := do
  skipBlanks
  skipComment
  if !(← newline?) && !(← get).isEmpty then failure

-- Blanks, comments and line ends.
def skipLines : Reader Unit := do
  go ((← get).length + 1)
where
  go : Nat → Reader Unit
    | 0        => failure
    | fuel + 1 => do
      skipBlanks
      skipComment
      if ← newline? then go fuel

-- Keys.

def isKeyChar (c : Char) : Bool :=
  Text.isAsciiLetter c || Text.isAsciiDigit c || c = '_' || c = '-'

def simpleKey : Reader String := do
  let cs ← get
  if cs.head?.any isMark then
    let (key, rest) ← (readLine? cs : Option _)
    set rest
    return key
  let key := cs.takeWhile isKeyChar
  if key.isEmpty then failure
  set (cs.dropWhile isKeyChar)
  return String.ofList key

-- Names with dots between them, blanks around each.
def key : Reader (List String) := do
  go ((← get).length + 1)
where
  go : Nat → Reader (List String)
    | 0        => failure
    | fuel + 1 => do
      skipBlanks
      let name ← simpleKey
      skipBlanks
      if ← eat? '.' then
        let names ← go fuel
        return name :: names
      return [name]

-- Values.

def text : Reader Value := do
  let (s, rest) ← (readText? (← get) : Option _)
  set rest
  return .text s

def scalar : Reader Value := do
  let (token, rest) := Scalar.span (← get)
  let value ← (Scalar.value? token : Option _)
  set rest
  return value

-- Elements up to a closing bracket, on any number of lines and with commas between them. One more
-- comma can be at the end.
def elements (close : Char) (element : Reader α) : Reader (List α) := do
  go ((← get).length + 1)
where
  go : Nat → Reader (List α)
    | 0        => failure
    | fuel + 1 => do
      skipLines
      if ← eat? close then return []
      let a ← element
      skipLines
      if ← eat? ',' then
        let as ← go fuel
        return a :: as
      eat close
      return [a]

def list (value : Reader Value) : Reader Value := do
  eat '['
  let items ← elements ']' value
  return .list items

def pair (value : Reader Value) : Reader (List String × Value) := do
  let path ← key
  eat '='
  skipBlanks
  return (path, ← value)

def inlineTable (value : Reader Value) : Reader Value := do
  eat '\x7b'
  let pairs ← elements '\x7d' (pair value)
  let entries ← (pairs.foldlM (fun es (path, value) => Entries.addPair? path value es) [] : Option _)
  return .table .inline entries

def leaf : Reader Value := do
  if (← get).head?.any isMark then text else scalar

-- A value that holds others at most `depth` deep.
def value : Nat → Reader Value
  | 0         => leaf
  | depth + 1 => do
    match (← get).head? with
    | some '['    => list (value depth)
    | some '\x7b' => inlineTable (value depth)
    | _           => leaf

def maxDepth : Nat := 80

-- Statements.

-- The entries read so far, and the header that further ones belong to.
structure Progress where
  entries : Entries
  header  : List String

def header (p : Progress) : Reader Progress := do
  eat '['
  let isItem ← eat? '['
  let path ← key
  eat ']'
  if isItem then eat ']'
  let add := if isItem then Entries.addItem? else Entries.addTable?
  let entries ← (add path p.entries : Option _)
  return { entries, header := path }

def entry (p : Progress) : Reader Progress := do
  let (path, value) ← pair (value maxDepth)
  let entries ← (Entries.addPairUnder? p.header path value p.entries : Option _)
  return { p with entries }

def isEmptyLine (cs : List Char) : Bool :=
  match cs with
  | []     => true
  | c :: _ => c = '#' || c = '\n' || c = '\r'

def statement (p : Progress) : Reader Progress := do
  skipBlanks
  let cs ← get
  let p ←
    if isEmptyLine cs then pure p
    else if cs.head? = some '[' then header p
    else entry p
  endLine
  return p

def statements (p : Progress) : Reader Progress := do
  go ((← get).length + 1) p
where
  go : Nat → Progress → Reader Progress
    | 0, _        => failure
    | fuel + 1, p => do
      if (← get).isEmpty then return p
      go fuel (← statement p)

end Reader

def byteOrderMark : Char := '\ufeff'

-- The entries of a document, if it is one.
def parse? (text : String) : Option Entries := do
  let cs := text.toList
  let cs := if cs.head? = some byteOrderMark then cs.tail else cs
  let (p, _) ← (Reader.statements { entries := [], header := [] }).run cs
  return p.entries

end CollectionPlan.Toml
