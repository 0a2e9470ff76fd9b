namespace CollectionPlan.Terminal

inductive Color
  | green
  | yellow
  | cyan
deriving DecidableEq, Repr

def Color.code : Color → String
  | green  => "32"
  | yellow => "33"
  | cyan   => "36"

structure Style where
  bold   : Bool := false
  dimmed : Bool := false
  color  : Option Color := none
deriving DecidableEq, Repr

namespace Style

def codes (s : Style) : List String :=
  (if s.bold then ["1"] else []) ++ (if s.dimmed then ["2"] else [])
    ++ s.color.elim [] fun c => [c.code]

-- Escape, bracket, codes and an `m`.
def sequence (codes : List String) : List Char :=
  '\x1b' :: '[' :: (";".intercalate codes).toList ++ ['m']

def reset : List Char :=
  sequence ["0"]

-- A reset inside a text would end its style, which is taken up again behind it.
def resume (start : List Char) : List Char → List Char
  | '\x1b' :: '[' :: '0' :: 'm' :: cs => reset ++ start ++ resume start cs
  | c :: cs                          => c :: resume start cs
  | []                               => []

-- A text in a style, or as it is if there are no colors.
def paint (s : Style) (colors : Bool) (text : String) : String :=
  if !colors || s.codes.isEmpty then text
  else
    let start := sequence s.codes
    String.ofList (start ++ resume start text.toList ++ reset)

end Style
end CollectionPlan.Terminal
