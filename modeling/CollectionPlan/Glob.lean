namespace CollectionPlan

-- A pattern for paths.
namespace Glob

-- What is wrong with a pattern, and after how many characters.
inductive Fault
  | tooManyStars
  | partialComponent
  | unclosedClass
deriving DecidableEq, Repr

def Fault.message : Fault → String
  | tooManyStars     => "wildcards are either regular `*` or recursive `**`"
  | partialComponent => "recursive wildcards must form a single path component"
  | unclosedClass    => "invalid range pattern"

structure Error where
  fault    : Fault
  position : Nat
deriving DecidableEq, Repr

def Error.message (e : Error) : String :=
  s!"Pattern syntax error near position {e.position}: {e.fault.message}"

inductive Piece
  | char (c : Char)
  | anyChar
  | oneOf (negated : Bool) (ranges : List (Char × Char))
  -- Any text, slashes included.
  | anyText
  -- Any number of whole components.
  | anyComponents
deriving DecidableEq, Repr

-- A dash between two characters of a class makes them the ends of a range.
def ranges : List Char → List (Char × Char)
  | a :: '-' :: b :: cs => (a, b) :: ranges cs
  | a :: cs             => (a, a) :: ranges cs
  | []                  => []

-- Where in a pattern a character stands: behind another one, if any, or in a class that was opened
-- at some position. The first character of a class is a member, whatever it is.
inductive Reading
  | outside (previous : Option Char)
  | opened (position : Nat)
  | inClass (position : Nat) (negated : Bool) (members : List Char)

def read : Reading → Nat → List Char → Except Error (List Piece)
  | .outside _, _, []                                =>
    .ok []
  | .outside _, n, '*' :: '*' :: '*' :: _            =>
    .error ⟨.tooManyStars, n + 2⟩
  | .outside previous, n, '*' :: '*' :: []           =>
    if previous.all (· = '/') then .ok [.anyComponents] else .error ⟨.partialComponent, n - 1⟩
  | .outside previous, n, '*' :: '*' :: c :: cs      =>
    if !previous.all (· = '/') then .error ⟨.partialComponent, n - 1⟩
    else if c ≠ '/' then .error ⟨.partialComponent, n + 2⟩
    else (read (.outside (some c)) (n + 3) cs).map (.anyComponents :: ·)
  | .outside _, n, c :: cs                           =>
    if c = '[' then read (.opened n) (n + 1) cs
    else
      let piece := if c = '*' then .anyText else if c = '?' then .anyChar else .char c
      (read (.outside (some c)) (n + 1) cs).map (piece :: ·)
  | .opened start, n, '!' :: cs                      =>
    read (.inClass start true []) (n + 1) cs
  | .opened start, n, c :: cs                        =>
    read (.inClass start false [c]) (n + 1) cs
  | .inClass start negated members, n, c :: cs       =>
    if c = ']' && !members.isEmpty then
      (read (.outside (some c)) (n + 1) cs).map (.oneOf negated (ranges members) :: ·)
    else read (.inClass start negated (members ++ [c])) (n + 1) cs
  | .opened start, _, [] | .inClass start _ _, _, [] =>
    .error ⟨.unclosedClass, start⟩

end Glob

-- Pieces that a text has to match one after the other.
structure Glob where
  pieces : List Glob.Piece
deriving DecidableEq, Repr

namespace Glob

def parse (pattern : String) : Except Error Glob :=
  (read (.outside none) 0 pattern.toList).map (⟨·⟩)

-- Matching.

def Piece.accepts : Piece → Char → Bool
  | char a, c               => a = c
  | anyChar, _              => true
  | oneOf negated ranges, c => (ranges.any fun (lo, hi) => lo ≤ c && c ≤ hi) != negated
  | _, _                    => false

def suffixes : List Char → List (List Char)
  | []      => [[]]
  | c :: cs => (c :: cs) :: suffixes cs

-- What is left of a text behind each of its slashes.
def behindSlashes : List Char → List (List Char)
  | []      => []
  | c :: cs => if c = '/' then cs :: behindSlashes cs else behindSlashes cs

def matchesAll : List Piece → List Char → Bool
  | [], cs                      => cs.isEmpty
  | .anyText :: ps, cs          => (suffixes cs).any (matchesAll ps)
  | .anyComponents :: ps, cs    => (cs :: behindSlashes cs ++ [[]]).any (matchesAll ps)
  | p :: ps, c :: cs            => p.accepts c && matchesAll ps cs
  | _ :: _, []                  => false

-- Whether the whole text fits the pattern.
def isMatch (g : Glob) (text : String) : Bool :=
  matchesAll g.pieces text.toList

end Glob
end CollectionPlan
