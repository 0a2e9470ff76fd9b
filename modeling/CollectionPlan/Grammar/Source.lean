import CollectionPlan.Grammar.Statement
import CollectionPlan.Token.Scan

namespace CollectionPlan.Grammar

namespace Rules

-- No rule reads anything.
def none : Rules where
  type _       := fail
  bound _ _    := fail
  pattern      := fail
  expr _       := fail
  unary _      := fail
  early        := fail
  climb _ _ _  := fail
  statements   := fail
  body         := fail
  item         := fail
  useTree _    := fail

def next (r : Rules) : Rules where
  type plus          := Type.read r plus
  bound capture const := Bound.read r capture const
  pattern            := Pattern.single r
  expr struct        := Expr.read r struct
  unary struct       := Expr.unary r struct
  early              := Expr.early r
  climb struct base  := Expr.climb r struct base
  statements         := Statement.sequence r
  body               := Statement.body r
  item               := Item.read r
  useTree root       := UseTree.read r root

-- Rules that can refer to each other `depth` deep.
def ofDepth (depth : Nat) : Rules :=
  depth.repeat next none

end Rules

-- Every reference between rules that is made without a token in between leads to one that is not.
def depthFor (input : List Placed) : Nat :=
  4 * input.length + 8

def syntaxOf (p : Rules → Parser α) (input : List Placed) : Except Fault α := do
  let (a, rest) ← p (Rules.ofDepth (depthFor input)) { input }
  match rest.leftover, rest.input with
  | some offset, _   => throw (.token offset)
  | none, _ :: _     => throw (faultAt rest.input)
  | none, []         => return a

def Fault.position (text : List Char) : Fault → Position
  | token offset => .ofOffset text offset
  | ending       => .start

-- Reads a whole text; an error is the place of the first token that does not fit.
def readText (p : Rules → Parser α) (text : List Char) : Except Position α :=
  match Token.scan text with
  | .error offset => .error (.ofOffset text offset)
  | .ok input     => (syntaxOf p input).mapError (·.position text)

def type? (text : String) : Option TypeTree :=
  (readText (·.type true) text.toList).toOption

-- The items of a file, with an answer for each that declares a type.
def file (r : Rules) : Parser (List (Option TypeItem)) := do
  Attributes.inner r
  untilEnd r.item

-- A first line that hands the file to an interpreter. It would start an attribute otherwise.
def isInterpreterLine (text : List Char) : Bool :=
  match text with
  | '#' :: '!' :: rest => (rest.drop (Token.skipped rest.length 0 rest)).head? != some '['
  | _                  => false

def withoutMark (text : List Char) : List Char :=
  if text.head? = some Token.byteOrderMark then text.tail else text

def content (text : List Char) : List Char :=
  let text := withoutMark text
  if isInterpreterLine text then text.dropWhile (· ≠ '\n') else text

-- The items of a source text, or the place where it stops being one.
def items (source : String) : Except Position (List (Option TypeItem)) :=
  readText file (content source.toList)

end CollectionPlan.Grammar
