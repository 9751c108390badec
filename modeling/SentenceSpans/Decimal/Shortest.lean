import SentenceSpans.Decimal.Binary64

/-!
# Shortest decimals

A floating-point number is written with the fewest digits that read back as the same number; of
two such decimals the nearer one, of two equally near ones the one with the even last digit.

A decimal reads back as a number when it lies in the interval of all reals that round to it.  The
interval reaches half way to both neighbours; its ends belong to it when the significand is even.
The search goes through the grids of one, two, ... seventeen digits and looks at the two grid
points around the number.

## Contents

  * `Decimal.shortest`: the digits and the exponent.
  * `NumberFormat`: how digits and exponent are written.
-/

namespace SentenceSpans

/-- The number `digits * 10 ^ exponent`. -/
structure Decimal where
  digits : Nat
  exponent : Int
deriving DecidableEq, Repr

namespace Decimal

/-! ## Intervals -/

/-- The number as a multiple of a quarter of its last place, with the lower and upper ends of the
interval that rounds to it.  Below a power of two the neighbour is only half as far away. -/
structure Interval where
  low : Nat
  middle : Nat
  high : Nat
  /-- The exponent of a quarter of the last place. -/
  exponent : Int
  /-- Whether the ends read back as the number. -/
  closed : Bool
deriving DecidableEq, Repr

def Interval.ofNumber (number : Binary64) : Interval :=
  let below := if number.significand = Nat.pow 2 (Binary64.precision - 1) then 1 else 2
  ⟨4 * number.significand - below, 4 * number.significand, 4 * number.significand + 2,
    number.exponent - 2, number.significand % 2 = 0⟩

/-! ## Grids -/

/-- The fraction without its factor `10 ^ exponent`. -/
def scaleDown (fraction : Fraction) (exponent : Int) : Fraction :=
  if 0 ≤ exponent then ⟨fraction.numerator, fraction.denominator * Nat.pow 10 exponent.toNat⟩
  else ⟨fraction.numerator * Nat.pow 10 (-exponent).toNat, fraction.denominator⟩

/-- The exponent of the first digit of a positive fraction: how often ten divides it, counted down
from a bound on the number of its digits. -/
def leadingExponentFrom (fraction : Fraction) : Nat → Int → Int
  | 0, exponent => exponent
  | fuel + 1, exponent =>
      let scaled := scaleDown fraction exponent
      if scaled.denominator ≤ scaled.numerator then exponent
      else leadingExponentFrom fraction fuel (exponent - 1)

def leadingExponent (fraction : Fraction) : Int :=
  leadingExponentFrom fraction (fraction.numerator.log2 + fraction.denominator.log2 + 2)
    fraction.numerator.log2

/-- Whether a point of the grid of `10 ^ exponent` reads back as the number. -/
def reads (interval : Interval) (exponent : Int) (point : Nat) : Bool :=
  let low := scaleDown (Fraction.scaled interval.low interval.exponent) exponent
  let high := scaleDown (Fraction.scaled interval.high interval.exponent) exponent
  if interval.closed then
    decide (low.numerator ≤ point * low.denominator) &&
      decide (point * high.denominator ≤ high.numerator)
  else
    decide (low.numerator < point * low.denominator) &&
      decide (point * high.denominator < high.numerator)

/-- The point of the grid of `10 ^ exponent` nearest to the number, if it reads back; of two
points around the number the one that does. -/
def onGrid? (interval : Interval) (exponent : Int) : Option Nat :=
  let middle := scaleDown (Fraction.scaled interval.middle interval.exponent) exponent
  let below := middle.numerator / middle.denominator
  let nearest := middle.roundToEven
  let other := if nearest = below then below + 1 else below
  if reads interval exponent nearest then some nearest
  else if reads interval exponent other then some other
  else none

/-- The first grid, from `digits` digits on, with a point that reads back. -/
def shortestFrom (interval : Interval) (leading : Int) (digits : Nat) : Nat → Decimal
  | 0 => ⟨0, 0⟩
  | fuel + 1 =>
      let exponent := leading - digits + 1
      match onGrid? interval exponent with
      | some point => ⟨point, exponent⟩
      | none => shortestFrom interval leading (digits + 1) fuel

/-- The decimal with the fewest digits that reads back as a number.  Seventeen digits always
suffice. -/
def shortest (number : Binary64) : Decimal :=
  if number.significand = 0 then ⟨0, 0⟩
  else shortestFrom (Interval.ofNumber number) (leadingExponent number.toFraction) 1 17

end Decimal

/-! ## Writing -/

structure NumberFormat where
  /-- The least exponent of the first digit that is written without an exponent. -/
  leastPlain : Int
  /-- The least exponent of the first digit that is too large for that. -/
  leastLarge : Int

namespace NumberFormat

/-- The digits of a text after the first one, with a point before them if there are any. -/
def fractionPart (digits : List Char) : String :=
  if digits.isEmpty then "" else "." ++ String.ofList digits

def zeros (count : Nat) : String := String.ofList (List.replicate count '0')

/-- Digits without zeros at the end. -/
def significantDigits (decimal : Decimal) : List Char :=
  ((Nat.repr decimal.digits).toList.reverse.dropWhile (· = '0')).reverse

/-- Write digits without an exponent, where `leading` is the exponent of the first one.  A whole
number has one zero after the point. -/
def plain (digits : List Char) (leading : Int) : String :=
  if leading < 0 then "0." ++ zeros (-leading - 1).toNat ++ String.ofList digits
  else
    let whole := leading.toNat + 1
    if digits.length ≤ whole then String.ofList digits ++ zeros (whole - digits.length) ++ ".0"
    else String.ofList (digits.take whole) ++ "." ++ String.ofList (digits.drop whole)

/-- Write digits with an exponent, whose sign is always written. -/
def scientific (digits : List Char) (leading : Int) : String :=
  String.ofList (digits.take 1) ++ fractionPart (digits.drop 1) ++ "e" ++
    (if leading < 0 then "-" else "+") ++ Nat.repr leading.natAbs

def render (format : NumberFormat) (decimal : Decimal) : String :=
  if decimal.digits = 0 then "0.0"
  else
    let leading := decimal.exponent + (Nat.repr decimal.digits).length - 1
    if format.leastPlain ≤ leading ∧ leading < format.leastLarge then
      plain (significantDigits decimal) leading
    else scientific (significantDigits decimal) leading

end NumberFormat

end SentenceSpans
