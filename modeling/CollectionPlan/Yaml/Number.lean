import CollectionPlan.Text.Decimal

-- Texts that a reader takes for a number unless they are quoted.
namespace CollectionPlan.Yaml.Number

def magnitude? : List Char → Option Nat
  | '0' :: 'x' :: cs => Text.value? 16 cs
  | '0' :: 'o' :: cs => Text.value? 8 cs
  | '0' :: 'b' :: cs => Text.value? 2 cs
  | cs               => Text.value? 10 cs

def isWhole (cs : List Char) : Bool :=
  let (negative, cs) := Text.splitSign cs
  (magnitude? cs).any (Text.fits negative)

-- Digits behind a zero are no number, but they look like one.
def isPadded (cs : List Char) : Bool :=
  match (Text.splitSign cs).2 with
  | '0' :: d :: cs => (d :: cs).all Text.isAsciiDigit
  | _              => false

def infinities : List String :=
  [".inf", ".Inf", ".INF"]

def undefined : List String :=
  [".nan", ".NaN", ".NAN"]

def isFraction (cs : List Char) : Bool :=
  infinities.contains (String.ofList (Text.splitSign cs).2)
    || undefined.contains (String.ofList cs)
    || (Text.decimal? (Text.splitSign cs).2).any (·.isFinite)

-- Whether an unquoted text stands for a number, or could be mistaken for one.
def isNumber (s : String) : Bool :=
  isWhole s.toList || isPadded s.toList || isFraction s.toList

end CollectionPlan.Yaml.Number
