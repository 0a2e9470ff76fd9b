import CollectionPlan.Text.Decimal
import CollectionPlan.Text.Identifier
import CollectionPlan.Toml.Value

-- Values without quotes and brackets.
namespace CollectionPlan.Toml.Scalar

def isPart (c : Char) : Bool :=
  Text.isAsciiLetter c || Text.isAsciiDigit c || c = '_' || c = '+' || c = '-' || c = '.' || c = ':'

-- Numbers. An underscore stands between two digits and counts for nothing.

def ungroup? (isDigit : Char → Bool) : List Char → Option (List Char)
  | a :: '_' :: b :: cs =>
    if isDigit a && isDigit b then (ungroup? isDigit (b :: cs)).map (a :: ·) else none
  | '_' :: _            => none
  | [_, '_']            => none
  | c :: cs             => (ungroup? isDigit cs).map (c :: ·)
  | []                  => some []

def inBase? (base : Nat) (cs : List Char) : Option Nat := do
  let cs ← ungroup? (fun c => (Text.digit? base c).isSome) cs
  Text.value? base cs

def hasLeadingZero (cs : List Char) : Bool :=
  match cs with
  | '0' :: d :: _ => Text.isAsciiDigit d || d = '_'
  | _             => false

-- Only decimal numbers have a sign.
def isWhole (cs : List Char) : Bool :=
  match cs with
  | '0' :: 'x' :: cs => (inBase? 16 cs).any (Text.fits false)
  | '0' :: 'o' :: cs => (inBase? 8 cs).any (Text.fits false)
  | '0' :: 'b' :: cs => (inBase? 2 cs).any (Text.fits false)
  | _                =>
    let (negative, cs) := Text.splitSign cs
    !hasLeadingZero cs && (inBase? 10 cs).any (Text.fits negative)

def constants : List String :=
  ["inf", "nan"]

-- A point has digits on both sides.
def hasOpenPoint (cs : List Char) : Bool :=
  match cs with
  | '.' :: _ => true
  | cs       =>
    match cs.dropWhile (· ≠ '.') with
    | '.' :: cs => !cs.head?.any Text.isAsciiDigit
    | _         => false

def hasFraction (cs : List Char) : Bool :=
  cs.any fun c => c = '.' || c = 'e' || c = 'E'

def isFraction (cs : List Char) : Bool :=
  let cs := (Text.splitSign cs).2
  constants.contains (String.ofList cs) ||
    (hasFraction cs && !hasLeadingZero cs && !hasOpenPoint cs &&
      ((ungroup? Text.isAsciiDigit cs).bind Text.decimal?).any (·.isFinite))

-- Dates and times.

def twoDigits? : List Char → Option (Nat × List Char)
  | a :: b :: cs => do
    let n ← Text.value? 10 [a, b]
    return (n, cs)
  | _            => none

def isLeapYear (year : Nat) : Bool :=
  (year % 4 = 0 && year % 100 ≠ 0) || year % 400 = 0

def daysIn (year month : Nat) : Nat :=
  if month = 2 then if isLeapYear year then 29 else 28
  else if month = 4 || month = 6 || month = 9 || month = 11 then 30
  else 31

def expect? (c : Char) : List Char → Option (List Char)
  | d :: cs => if c = d then some cs else none
  | []      => none

-- What is left of a text behind a date at its head.
def afterDate? (cs : List Char) : Option (List Char) := do
  let (century, cs) ← twoDigits? cs
  let (year, cs) ← twoDigits? cs
  let (month, cs) ← twoDigits? (← expect? '-' cs)
  let (day, cs) ← twoDigits? (← expect? '-' cs)
  if 1 ≤ month && month ≤ 12 && 1 ≤ day && day ≤ daysIn (century * 100 + year) month then some cs
  else none

def afterFraction? : List Char → Option (List Char)
  | '.' :: cs => if cs.head?.any Text.isAsciiDigit then some (cs.dropWhile Text.isAsciiDigit) else none
  | cs        => some cs

def afterSeconds? : List Char → Option (List Char)
  | ':' :: cs => do
    let (second, cs) ← twoDigits? cs
    if second ≤ 60 then afterFraction? cs else none
  | cs        => some cs

def afterMinutes? (cs : List Char) : Option (List Char) := do
  let (hour, cs) ← twoDigits? cs
  let (minute, cs) ← twoDigits? (← expect? ':' cs)
  if hour ≤ 23 && minute ≤ 59 then some cs else none

def afterTime? (cs : List Char) : Option (List Char) := do
  afterSeconds? (← afterMinutes? cs)

def isOffset (cs : List Char) : Bool :=
  match cs with
  | [c]     => c = 'Z' || c = 'z'
  | c :: cs => (c = '+' || c = '-') && afterMinutes? cs = some []
  | []      => true

def isTimeSeparator (c : Char) : Bool :=
  c = 'T' || c = 't' || c = ' '

def isTime (cs : List Char) : Bool :=
  match afterDate? cs with
  | some []        => true
  | some (c :: cs) => isTimeSeparator c && (afterTime? cs).any isOffset
  | none           => afterTime? cs = some []

-- The value that a text without quotes stands for.
def value? (cs : List Char) : Option Value :=
  if cs = "true".toList then some (.flag true)
  else if cs = "false".toList then some (.flag false)
  else if isWhole cs || isFraction cs then some .number
  else if isTime cs then some .time
  else none

-- The characters of such a value at the head of a text. A blank can be between a date and a time.
def span (cs : List Char) : List Char × List Char :=
  let token := cs.takeWhile isPart
  match afterDate? token, cs.dropWhile isPart with
  | some [], ' ' :: d :: rest =>
    if Text.isAsciiDigit d then
      (token ++ ' ' :: (d :: rest).takeWhile isPart, (d :: rest).dropWhile isPart)
    else (token, ' ' :: d :: rest)
  | _, rest                   => (token, rest)

end CollectionPlan.Toml.Scalar
