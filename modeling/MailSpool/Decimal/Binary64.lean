/-!
# Numbers of 64 bits

The magnitudes that a floating-point number of 64 bits can have, with multiplication and division
rounded to the nearest of them. All of it is exact arithmetic on natural numbers: a magnitude is a
mantissa times a power of two, and a result is found from its exact ratio.
-/

namespace MailSpool.Decimal

/-- The magnitude `mantissa * 2 ^ exponent`. Unless the exponent is the least one, the mantissa
has exactly 53 binary digits, so a magnitude is written in one way only. -/
structure Binary64 where
  mantissa : Nat
  exponent : Int
  deriving DecidableEq, Repr

namespace Binary64

def leastFullMantissa : Nat := 4503599627370496

/-- The exponent below which no magnitude is written. -/
def leastExponent : Int := -1074

/-- The exponent above which no magnitude is written. -/
def greatestExponent : Int := 971

def zero : Binary64 := ⟨0, leastExponent⟩

def isZero (value : Binary64) : Bool :=
  value.mantissa = 0

def numerator (value : Binary64) : Nat :=
  value.mantissa * Nat.pow 2 value.exponent.toNat

def denominator (value : Binary64) : Nat :=
  Nat.pow 2 (-value.exponent).toNat

/-- The natural number nearest to a ratio; of two that are equally near, the even one. -/
def roundedQuotient (numerator denominator : Nat) : Nat :=
  let quotient := numerator / denominator
  let twice := 2 * (numerator % denominator)
  if twice < denominator then quotient
  else if denominator < twice then quotient + 1
  else quotient + quotient % 2

/-- The greatest exponent of a power of two that is not above a positive ratio. -/
def binaryExponent (numerator denominator : Nat) : Int :=
  let estimate : Int := numerator.log2 - denominator.log2
  let scaled := numerator * Nat.pow 2 (-estimate).toNat
  if scaled < denominator * Nat.pow 2 estimate.toNat then estimate - 1 else estimate

/-- The magnitude nearest to a ratio, or nothing when the ratio is too large. -/
def ofRatio (numerator denominator : Nat) : Option Binary64 :=
  if numerator = 0 then some zero
  else
    let exponent := max (binaryExponent numerator denominator - 52) leastExponent
    let mantissa :=
      roundedQuotient (numerator * Nat.pow 2 (-exponent).toNat)
        (denominator * Nat.pow 2 exponent.toNat)
    let rounded : Binary64 :=
      if mantissa = 2 * leastFullMantissa then ⟨leastFullMantissa, exponent + 1⟩
      else ⟨mantissa, exponent⟩
    if rounded.exponent ≤ greatestExponent then some rounded else none

def times (first second : Binary64) : Option Binary64 :=
  ofRatio (first.numerator * second.numerator) (first.denominator * second.denominator)

/-- The magnitude nearest to a quotient by a magnitude other than zero. -/
def dividedBy (first second : Binary64) : Option Binary64 :=
  ofRatio (first.numerator * second.denominator) (first.denominator * second.numerator)

def powerOfTen (exponent : Nat) : Option Binary64 :=
  ofRatio (Nat.pow 10 exponent) 1

end Binary64

end MailSpool.Decimal
