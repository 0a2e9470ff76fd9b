import CollectionPlan.Document
import CollectionPlan.Text.Digits

-- Reading JSON, character by character. Of its values only those are read that documents have, so
-- no numbers and no null, and of its codes only those of characters, so no halves of a pair.
namespace CollectionPlan.Json

inductive Token
  | openList
  | closeList
  | openRecord
  | closeRecord
  | comma
  | colon
  | flag (value : Bool)
  | text (value : String)
deriving DecidableEq, Repr

-- A bracket that is open, with what has been read behind it.
inductive Frame
  | items (read : List Document)
  | field (read : List (String × Document)) (key : String)

-- What is due, with the open brackets from the innermost one outwards.
inductive Phase
  | value (stack : List Frame)
  | key (read : List (String × Document)) (stack : List Frame)
  | colon (read : List (String × Document)) (key : String) (stack : List Frame)
  | done (value : Document) (stack : List Frame)

-- A list or a record is empty if its bracket is closed before anything has been read behind it.
def Phase.accept : Phase → Token → Option Phase
  | value stack, .flag b                       => some (done (.flag b) stack)
  | value stack, .text s                       => some (done (.text s) stack)
  | value stack, .openList                     => some (value (.items [] :: stack))
  | value stack, .openRecord                   => some (key [] stack)
  | value (.items [] :: stack), .closeList     => some (done (.list []) stack)
  | key [] stack, .closeRecord                 => some (done (.record []) stack)
  | key fs stack, .text k                      => some (colon fs k stack)
  | colon fs k stack, .colon                   => some (value (.field fs k :: stack))
  | done d (.items ds :: stack), .comma        => some (value (.items (ds ++ [d]) :: stack))
  | done d (.items ds :: stack), .closeList    => some (done (.list (ds ++ [d])) stack)
  | done d (.field fs k :: stack), .comma       => some (key (fs ++ [(k, d)]) stack)
  | done d (.field fs k :: stack), .closeRecord => some (done (.record (fs ++ [(k, d)])) stack)
  | _, _                                       => none

-- The token in which a character stands.
inductive Mode
  | outside
  -- Inside `true` or `false`, with the letters that are missing.
  | word (missing : List Char) (value : Bool)
  -- Inside a text, with the characters that have been read.
  | text (read : List Char)
  | escape (read : List Char)
  | code (read : List Char) (digits : List Char)

structure Reader where
  mode  : Mode
  phase : Phase

def isBlank (c : Char) : Bool :=
  c = ' ' || c = '\t' || c = '\n' || c = '\r'

def punctuation? : Char → Option Token
  | '['    => some .openList
  | ']'    => some .closeList
  | '\x7b' => some .openRecord
  | '\x7d' => some .closeRecord
  | ','    => some .comma
  | ':'    => some .colon
  | _      => none

-- The character for which a letter behind a backslash stands.
def unescape? : Char → Option Char
  | '"'  => some '"'
  | '\\' => some '\\'
  | '/'  => some '/'
  | 'b'  => some '\x08'
  | 'f'  => some '\x0c'
  | 'n'  => some '\n'
  | 'r'  => some '\r'
  | 't'  => some '\t'
  | _    => none

def ofCode? (digits : List Char) : Option Char :=
  (Text.value? 16 digits).bind fun n => if n.isValidChar then some (Char.ofNat n) else none

namespace Reader

-- A token has ended.
def emit (phase : Phase) (t : Token) : Option Reader :=
  (phase.accept t).map (⟨.outside, ·⟩)

def stepOutside (phase : Phase) (c : Char) : Option Reader :=
  if isBlank c then some ⟨.outside, phase⟩
  else if c = '"' then some ⟨.text [], phase⟩
  else if c = 't' then some ⟨.word ['r', 'u', 'e'] true, phase⟩
  else if c = 'f' then some ⟨.word ['a', 'l', 's', 'e'] false, phase⟩
  else (punctuation? c).bind (emit phase)

def stepWord (phase : Phase) (value : Bool) (c : Char) : List Char → Option Reader
  | []                => none
  | [m]               => if c = m then emit phase (.flag value) else none
  | m :: missing      => if c = m then some ⟨.word missing value, phase⟩ else none

-- Control characters do not stand in a text as they are.
def stepText (phase : Phase) (read : List Char) (c : Char) : Option Reader :=
  if c = '"' then emit phase (.text (String.ofList read))
  else if c = '\\' then some ⟨.escape read, phase⟩
  else if c.toNat < 0x20 then none
  else some ⟨.text (read ++ [c]), phase⟩

def stepEscape (phase : Phase) (read : List Char) (c : Char) : Option Reader :=
  if c = 'u' then some ⟨.code read [], phase⟩
  else (unescape? c).map fun d => ⟨.text (read ++ [d]), phase⟩

-- A code has four digits.
def stepCode (phase : Phase) (read digits : List Char) (c : Char) : Option Reader :=
  if digits.length < 3 then some ⟨.code read (digits ++ [c]), phase⟩
  else (ofCode? (digits ++ [c])).map fun d => ⟨.text (read ++ [d]), phase⟩

def step (r : Reader) (c : Char) : Option Reader :=
  match r.mode with
  | .outside            => stepOutside r.phase c
  | .word missing value => stepWord r.phase value c missing
  | .text read          => stepText r.phase read c
  | .escape read        => stepEscape r.phase read c
  | .code read digits   => stepCode r.phase read digits c

def run (r : Reader) (cs : List Char) : Option Reader :=
  cs.foldlM step r

-- The value that has been read, if every token and every bracket has ended.
def result? : Reader → Option Document
  | ⟨.outside, .done d []⟩ => some d
  | _                      => none

end Reader

-- The document that a text is.
def read? (text : String) : Option Document :=
  (Reader.run ⟨.outside, .value []⟩ text.toList).bind Reader.result?

end CollectionPlan.Json
