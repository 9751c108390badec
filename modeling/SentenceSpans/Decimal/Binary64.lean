/-!
# Binary floating-point numbers

Non-negative numbers with 53 significant bits, as fractions that are computed exactly and then
rounded to the nearest such number, a tie to the even one.  Exponents are not bounded: the numbers
of this library stay far from the limits of the 64-bit format.
-/

namespace SentenceSpans

structure Fraction where
  numerator : Nat
  denominator : Nat
deriving DecidableEq, Repr

namespace Fraction

/-- The fraction `n * 2 ^ exponent`. -/
def scaled (n : Nat) (exponent : Int) : Fraction :=
  if 0 ≤ exponent then ⟨n * Nat.pow 2 exponent.toNat, 1⟩
  else ⟨n, Nat.pow 2 (-exponent).toNat⟩

def add (left right : Fraction) : Fraction :=
  ⟨left.numerator * right.denominator + right.numerator * left.denominator,
    left.denominator * right.denominator⟩

def divide (left right : Fraction) : Fraction :=
  ⟨left.numerator * right.denominator, left.denominator * right.numerator⟩

/-- The fraction without its factor `2 ^ exponent`. -/
def unscale (fraction : Fraction) (exponent : Int) : Fraction :=
  divide fraction (scaled 1 exponent)

/-- The whole number nearest to a fraction; of two equally near ones the even one. -/
def roundToEven (fraction : Fraction) : Nat :=
  let quotient := fraction.numerator / fraction.denominator
  let twice := 2 * (fraction.numerator % fraction.denominator)
  if twice < fraction.denominator then quotient
  else if fraction.denominator < twice then quotient + 1
  else if quotient % 2 = 0 then quotient
  else quotient + 1

end Fraction

/-- The number `significand * 2 ^ exponent`. -/
structure Binary64 where
  significand : Nat
  exponent : Int
deriving DecidableEq, Repr

namespace Binary64

def precision : Nat := 53

def zero : Binary64 := ⟨0, 0⟩

def toFraction (number : Binary64) : Fraction :=
  Fraction.scaled number.significand number.exponent

/-- The exponent with which a positive fraction has all its significant bits before the point. -/
def exponentOf (fraction : Fraction) : Int :=
  let guess : Int :=
    (fraction.numerator.log2 : Int) - (fraction.denominator.log2 : Int) - (precision - 1 : Nat)
  let scaled := fraction.unscale guess
  if scaled.numerator < scaled.denominator * Nat.pow 2 (precision - 1) then guess - 1 else guess

/-- The number nearest to a fraction. -/
def ofFraction (fraction : Fraction) : Binary64 :=
  if fraction.numerator = 0 then zero
  else
    let exponent := exponentOf fraction
    let significand := (fraction.unscale exponent).roundToEven
    if significand = Nat.pow 2 precision then ⟨Nat.pow 2 (precision - 1), exponent + 1⟩
    else ⟨significand, exponent⟩

def ofNat (n : Nat) : Binary64 := ofFraction ⟨n, 1⟩

def add (left right : Binary64) : Binary64 :=
  ofFraction (left.toFraction.add right.toFraction)

/-- The quotient by a positive number, rounded. -/
def divide (left right : Binary64) : Binary64 :=
  ofFraction (left.toFraction.divide right.toFraction)

example : ofNat 9007199254740993 = ⟨4503599627370496, 1⟩ := by decide
example : divide (ofNat 1) (ofNat 3) = ⟨6004799503160661, -54⟩ := by decide

end Binary64

end SentenceSpans
