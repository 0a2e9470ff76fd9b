import CollectionPlan.Text.Blank

namespace CollectionPlan.Text

-- Cuts at every character that satisfies `cut`; there is always one piece more than there are cuts.
def splitAt (cut : Char → Bool) : List Char → List (List Char)
  | [] => [[]]
  | c :: rest =>
    if cut c then [] :: splitAt cut rest
    else match splitAt cut rest with
      | [] => [[c]]
      | piece :: pieces => (c :: piece) :: pieces

theorem splitAt_ne_nil : splitAt cut cs ≠ [] := by
  cases cs with
  | nil => simp [splitAt]
  | cons c cs =>
    simp only [splitAt]
    split
    · simp
    · split <;> simp

def dropReturn (line : List Char) : List Char :=
  if line.getLast? = some '\r' then line.dropLast else line

-- The lines of a text. A line ends with `\n` or `\r\n`; a text that ends with a line end has no
-- further empty line.
def lines (cs : List Char) : List (List Char) :=
  go [] cs
where
  go (line : List Char) : List Char → List (List Char)
    | [] => if line.isEmpty then [] else [line.reverse]
    | c :: rest => if c = '\n' then dropReturn line.reverse :: go [] rest else go (c :: line) rest

-- The maximal runs of characters that are not blank.
def words (cs : List Char) : List (List Char) :=
  (splitAt isBlank cs).filter (!·.isEmpty)

-- The first place where `text` starts with `key`: what stands before it and what stands after it.
def breakOn (key : List Char) : List Char → Option (List Char × List Char)
  | [] => if key.isEmpty then some ([], []) else none
  | c :: rest =>
    if key.isPrefixOf (c :: rest) then some ([], (c :: rest).drop key.length)
    else (breakOn key rest).map fun (before, after) => (c :: before, after)

end CollectionPlan.Text
