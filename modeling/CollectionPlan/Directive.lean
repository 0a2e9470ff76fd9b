import CollectionPlan.Text.Line

namespace CollectionPlan

-- A comma separated list in quotes. A tag without items is not the same as no tag.
structure Tag where
  items : List String
deriving DecidableEq, Repr

structure Directive where
  name        : String
  pointer     : Bool := false
  methods     : Option Tag := none
  projections : Option Tag := none
deriving DecidableEq, Repr

namespace Tag

inductive Key
  | methods
  | projections
deriving DecidableEq, Repr

def Key.text : Key → String
  | methods     => "methods"
  | projections => "projections"

def Key.opening (key : Key) : List Char :=
  (key.text ++ ":\"").toList

-- The part of a text before its last double quote.
def beforeLastQuote? (cs : List Char) : Option (List Char) :=
  match cs.reverse.dropWhile (· ≠ '"') with
  | []        => none
  | _ :: rest => some rest.reverse

-- The value reaches from the first opening to the last quote of the text.
def value? (key : Key) (token : List Char) : Option (List Char) := do
  let (_, after) ← Text.breakOn key.opening token
  beforeLastQuote? after

def itemsOf (value : List Char) : List String :=
  if value.isEmpty then [] else (Text.splitAt (· = ',') value).map String.ofList

def ofToken? (key : Key) (token : List Char) : Option Tag :=
  (value? key token).map (⟨itemsOf ·⟩)

end Tag

namespace Directive

def marker : List Char := "+gen".toList

-- A documentation line without the comment slashes and blanks in front of it.
def strip (line : List Char) : List Char :=
  line.dropWhile fun c => c = '/' || Text.isBlank c

-- What is taken off is a run of slashes and blanks, and none of them is left in front.
theorem strip_eq_iff {line rest : List Char} : strip line = rest ↔ ∃ run, line = run ++ rest ∧
    (∀ c ∈ run, c = '/' ∨ Text.isBlank c) ∧ ∀ c, rest.head? = some c → c ≠ '/' ∧ Text.isBlank c = false where
  mp := by
    rintro rfl
    refine ⟨_, List.takeWhile_append_dropWhile.symm, fun c hc => ?_, fun c hc => ?_⟩
    case refine_1 => simpa using List.all_eq_true.mp List.all_takeWhile c hc
    case refine_2 =>
      have hn := List.head?_dropWhile_not (fun c => c = '/' || Text.isBlank c) line
      rw [←strip, hc] at hn
      simpa using hn
  mpr := by
    rintro ⟨run, rfl, hr, hs⟩
    rw [strip, List.dropWhile_append_of_pos (by simpa using hr)]
    cases rest
    case nil         => rfl
    case cons c rest => exact List.dropWhile_cons_of_neg (by simpa using hs c rfl)

def isDirectiveLine (line : List Char) : Bool :=
  marker.isPrefixOf (strip line)

-- A later tag of one kind takes the place of an earlier one; other words say nothing.
def read (d : Directive) (token : List Char) : Directive where
  name        := d.name
  pointer     := d.pointer || token == ['*']
  methods     := Tag.ofToken? .methods token <|> d.methods
  projections := Tag.ofToken? .projections token <|> d.projections

def ofLine (name : String) (line : List Char) : Directive :=
  (Text.words (strip line)).foldl read { name }

-- The directive of a documentation text is its first line that starts with the marker.
def ofDoc? (doc name : String) : Option Directive :=
  (Text.lines doc.toList).find? isDirectiveLine |>.map (ofLine name)

end Directive
end CollectionPlan
