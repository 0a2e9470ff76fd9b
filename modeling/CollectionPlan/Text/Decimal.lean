import CollectionPlan.Text.Digits

-- Numbers as they are written, with a sign, a point and an exponent.
namespace CollectionPlan.Text

-- Whether a text has a minus in front, and the text without its sign.
def splitSign : List Char → Bool × List Char
  | '-' :: cs => (true, cs)
  | '+' :: cs => (false, cs)
  | cs        => (false, cs)

-- Whole numbers have 128 bits, and one value more below zero than above it.
def fits (negative : Bool) (magnitude : Nat) : Bool :=
  if negative then magnitude ≤ Nat.pow 2 127 else magnitude < Nat.pow 2 128

-- A decimal fraction: its digits without the point, and the power of ten that they count.
structure Decimal where
  digits   : List Char
  exponent : Int
deriving DecidableEq, Repr

def exponent? : List Char → Option Int
  | []      => some 0
  | e :: cs =>
    let (negative, cs) := splitSign cs
    if e = 'e' || e = 'E' then
      (value? 10 cs).map fun n => if negative then -(n : Int) else n
    else none

def decimal? (cs : List Char) : Option Decimal := do
  let whole := cs.takeWhile isAsciiDigit
  let rest := cs.dropWhile isAsciiDigit
  let (fraction, rest) := match rest with
    | '.' :: rest => (rest.takeWhile isAsciiDigit, rest.dropWhile isAsciiDigit)
    | _           => ([], rest)
  if whole.isEmpty && fraction.isEmpty then none
  let exponent ← exponent? rest
  return { digits := whole ++ fraction, exponent := exponent - fraction.length }

-- The least number that rounds to more than a 64 bit float can hold.
def floatBound : Nat :=
  Nat.pow 2 1024 - Nat.pow 2 970

namespace Decimal

-- The bound has 309 digits, so that only numbers of that size are compared with it.
def isFinite (d : Decimal) : Bool :=
  let digits := d.digits.dropWhile (· = '0')
  let size := digits.length + d.exponent
  if digits.isEmpty || size < 309 then true
  else if size > 309 then false
  else match value? 10 digits with
    | some n => n * Nat.pow 10 d.exponent.toNat < floatBound * Nat.pow 10 (-d.exponent).toNat
    | none   => false

end Decimal

end CollectionPlan.Text
