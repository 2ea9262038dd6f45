import MailSpool.Decimal.Binary64

/-!
# Shortest decimal text

The decimal text of a magnitude with the fewest digits that still reads back as the magnitude; of
the numbers with that many digits it is the nearest one. The digits are found on the grids of one,
two, … seventeen digits: the first grid on which a neighbour of the value lies in the interval of
the numbers that round to it decides.
-/

namespace MailSpool.Decimal

/-- Decimal digits, read as the natural number `digits` times ten to the power `exponent`. -/
structure Digits where
  digits : Nat
  exponent : Int
  deriving DecidableEq, Repr

def digitCount (number : Nat) : Nat :=
  if number = 0 then 0 else (Nat.toDigits 10 number).length

/-- The greatest exponent of a power of ten that is not above a positive ratio. -/
def decimalExponent (numerator denominator : Nat) : Int :=
  if denominator ≤ numerator then digitCount (numerator / denominator) - 1
  else -(digitCount ((denominator + numerator - 1) / numerator - 1))

/-- The numbers that round to a magnitude, each end given as a ratio over `denominator`. The ends
belong to the interval when `closed` says so. -/
structure Interval where
  low : Nat
  high : Nat
  denominator : Nat
  closed : Bool

/-- The interval of the numbers that round to a positive magnitude. Below a power of two the
neighbour is half as far away as above it. -/
def Binary64.interval (value : Binary64) : Interval :=
  let scale := Nat.pow 2 (value.exponent - 2).toNat
  let gapBelow :=
    if value.mantissa = leastFullMantissa ∧ value.exponent ≠ leastExponent then 1 else 2
  ⟨(4 * value.mantissa - gapBelow) * scale, (4 * value.mantissa + 2) * scale,
    Nat.pow 2 (2 - value.exponent).toNat, value.mantissa % 2 = 0⟩

def Interval.contains (interval : Interval) (decimal : Digits) : Bool :=
  let scaled := decimal.digits * Nat.pow 10 decimal.exponent.toNat * interval.denominator
  let low := interval.low * Nat.pow 10 (-decimal.exponent).toNat
  let high := interval.high * Nat.pow 10 (-decimal.exponent).toNat
  if interval.closed then low ≤ scaled && scaled ≤ high else low < scaled && scaled < high

/-- The neighbour of a magnitude on the grid of a power of ten that lies in the interval, the
nearer one if both do, and of two equally near ones the even one. -/
def onGrid? (value : Binary64) (exponent : Int) : Option Digits :=
  let numerator := value.numerator * Nat.pow 10 (-exponent).toNat
  let denominator := value.denominator * Nat.pow 10 exponent.toNat
  let below : Digits := ⟨numerator / denominator, exponent⟩
  let above : Digits := ⟨numerator / denominator + 1, exponent⟩
  let nearest : Digits := ⟨Binary64.roundedQuotient numerator denominator, exponent⟩
  match value.interval.contains below, value.interval.contains above with
  | true, true => some nearest
  | true, false => some below
  | false, true => some above
  | false, false => none

/-- The grids of one to seventeen digits, each given by the exponent of its unit, tried in turn. -/
def firstOnGrids (value : Binary64) (leading : Int) : Nat → Nat → Digits
  | 0, _ => ⟨0, 0⟩
  | grids + 1, tried =>
    match onGrid? value (leading - tried) with
    | some found => found
    | none => firstOnGrids value leading grids (tried + 1)

/-- Digits without a zero at their end: the neighbour above nine is ten. -/
def Digits.normalized (decimal : Digits) : Digits :=
  if decimal.digits % 10 = 0 ∧ decimal.digits ≠ 0 then
    ⟨decimal.digits / 10, decimal.exponent + 1⟩
  else decimal

def shortest (value : Binary64) : Digits :=
  if value.isZero then ⟨0, 0⟩
  else
    (firstOnGrids value (decimalExponent value.numerator value.denominator) 17 0).normalized

/-- How numbers are written: from which power of ten on the exponent form is used, and up to how
many zeros after the point it is not. -/
structure Format where
  positionalBelow : Int
  zerosAfterPoint : Int

/-- Digits with a point somewhere, or with an exponent: a positional number always shows a point,
and an exponent always its sign. -/
def Format.write (format : Format) (decimal : Digits) : String :=
  let digits := toString decimal.digits
  let point : Int := digits.length + decimal.exponent
  if decimal.digits = 0 then "0.0"
  else if 0 < point ∧ point ≤ format.positionalBelow then
    if 0 ≤ decimal.exponent then
      digits ++ String.ofList (List.replicate decimal.exponent.toNat '0') ++ ".0"
    else
      String.ofList (digits.toList.take point.toNat) ++ "." ++
        String.ofList (digits.toList.drop point.toNat)
  else if -format.zerosAfterPoint ≤ point ∧ point ≤ 0 then
    "0." ++ String.ofList (List.replicate (-point).toNat '0') ++ digits
  else
    let shown :=
      match digits.toList with
      | [] => ""
      | [digit] => digit.toString
      | digit :: others => digit.toString ++ "." ++ String.ofList others
    let sign := if point ≤ 0 then "-" else "+"
    shown ++ "e" ++ sign ++ toString (point - 1).natAbs

end MailSpool.Decimal
