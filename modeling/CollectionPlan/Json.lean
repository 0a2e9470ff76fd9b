import CollectionPlan.Document
import CollectionPlan.Text.Quoted

namespace CollectionPlan.Json

-- A control character without a letter of its own is written by four digits.
def escapeCode (c : Char) : List Char :=
  ['\\', 'u', '0', '0', Text.hexDigit (c.toNat / 16), Text.hexDigit (c.toNat % 16)]

def escapeChar (c : Char) : List Char :=
  if c = '"' then ['\\', '"']
  else if c = '\\' then ['\\', '\\']
  else if c = '\x08' then ['\\', 'b']
  else if c = '\x0c' then ['\\', 'f']
  else if c = '\n' then ['\\', 'n']
  else if c = '\r' then ['\\', 'r']
  else if c = '\t' then ['\\', 't']
  else if c.toNat < 0x20 then escapeCode c
  else [c]

def quoted (s : String) : List Char :=
  '"' :: s.toList.flatMap escapeChar ++ ['"']

-- Every level is indented by two more spaces.
def newline (depth : Nat) : List Char :=
  '\n' :: List.replicate (2 * depth) ' '

mutual

def value (depth : Nat) : Document → List Char
  | .flag b              => (if b then "true" else "false").toList
  | .text s              => quoted s
  | .list []             => ['[', ']']
  | .list (d :: ds)      =>
    '[' :: newline (depth + 1) ++ value (depth + 1) d ++ items (depth + 1) ds ++ newline depth ++ [']']
  | .record []           => ['\x7b', '\x7d']
  | .record ((k, d) :: fs) =>
    '\x7b' :: newline (depth + 1) ++ quoted k ++ ':' :: ' ' :: value (depth + 1) d
      ++ fields (depth + 1) fs ++ newline depth ++ ['\x7d']

-- The items of a list behind the first one.
def items (depth : Nat) : List Document → List Char
  | []      => []
  | d :: ds => ',' :: newline depth ++ value depth d ++ items depth ds

-- The fields of a record behind the first one.
def fields (depth : Nat) : List (String × Document) → List Char
  | []           => []
  | (k, d) :: fs => ',' :: newline depth ++ quoted k ++ ':' :: ' ' :: value depth d ++ fields depth fs

end

-- A document on lines of its own, one for each item and each field.
def render (d : Document) : String :=
  String.ofList (value 0 d ++ ['\n'])

end CollectionPlan.Json
