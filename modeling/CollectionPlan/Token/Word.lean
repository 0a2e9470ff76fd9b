import CollectionPlan.Token.Lexeme

namespace CollectionPlan

namespace Lexeme

-- Whether a text is an identifier that is not raw, and nothing else.
def isName : List Char → Bool
  | []      => false
  | c :: cs => Text.isIdentStart c && cs.all Text.isIdentContinue

def isWord : List Char → Bool
  | 'r' :: '#' :: cs => isName cs && !neverRaw.contains (String.ofList cs)
  | cs               => isName cs

theorem isName_take (h : name? cs = some n) : isName (cs.take n) := by
  cases cs with
  | nil => simp [name?] at h
  | cons c rest =>
    simp only [name?, Option.ite_none_right_eq_some, Option.some.injEq] at h
    obtain ⟨hc, rfl⟩ := h
    have ht : rest.take (rest.takeWhile Text.isIdentContinue).length = rest.takeWhile Text.isIdentContinue :=
      (List.prefix_iff_eq_take.mp (List.takeWhile_prefix _)).symm
    rw [Nat.add_comm, List.take_succ_cons, ht]
    simp [isName, hc]

theorem isWord_of_isName (h : isName cs) : isWord cs := by
  unfold isWord
  split
  case h_1 => simp [isName, show Text.isIdentContinue '#' = false by rfl] at h
  case h_2 => exact h

-- What is read as a word is one on its own, whatever stands behind it.
theorem isWord_take (h : ident? cs = some n) : isWord (cs.take n) := by
  have ⟨_, h⟩ := Option.ite_none_left_eq_some.mp h
  unfold anyIdent? at h
  split at h
  case h_1 =>
    have ⟨k, hk, h⟩ := Option.bind_eq_some_iff.mp h
    have ⟨hr, h⟩ := Option.ite_none_left_eq_some.mp h
    cases h
    rw [List.take_succ_cons, List.take_succ_cons]
    simpa [isWord, isName_take hk] using hr
  case h_2 => exact isWord_of_isName (isName_take h)

end Lexeme

-- A word of a source text: an identifier, raw or not, or a keyword.
structure Word where
  text   : String
  isWord : Lexeme.isWord text.toList
deriving DecidableEq, Repr

namespace Word

-- The word at the head of a text, with its extent.
def read? (cs : List Char) : Option (Word × Nat) :=
  match h : Lexeme.ident? cs with
  | some n => some ({ text := String.ofList (cs.take n), isWord := by simpa using Lexeme.isWord_take h }, n)
  | none   => none

-- Words that are no identifiers.
def reserved : List String :=
  ["_", "abstract", "as", "async", "await", "become", "box", "break", "const", "continue", "crate",
    "do", "dyn", "else", "enum", "extern", "false", "final", "fn", "for", "if", "impl", "in", "let",
    "loop", "macro", "match", "mod", "move", "mut", "override", "priv", "pub", "ref", "return",
    "Self", "self", "static", "struct", "super", "trait", "true", "try", "type", "typeof",
    "unsafe", "unsized", "use", "virtual", "where", "while", "yield"]

def isIdentifier (w : Word) : Bool :=
  !reserved.contains w.text

end Word

-- A word that can name something.
structure Identifier extends Word where
  free : toWord.isIdentifier
deriving DecidableEq, Repr

namespace Word

def identifier? (w : Word) : Option Identifier :=
  if h : w.isIdentifier then some { w with free := h } else none

end Word
end CollectionPlan
