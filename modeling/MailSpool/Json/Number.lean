import MailSpool.Decimal.Shortest

/-!
# Written numbers

A number is whole when it has neither a point nor an exponent and fits into 64 bits, signed or
not. Any other number is in floating point: its digits are taken as a whole number as long as they
fit into 64 bits, and that number is then scaled by a power of ten, rounding once for each step.
-/

namespace MailSpool.Json

open Decimal (Binary64)

/-- A number as it is written. -/
inductive Number where
  | whole (value : Int)
  | floating (negative : Bool) (magnitude : Binary64)
  deriving DecidableEq, Repr

namespace Number

/-- How floating-point numbers are shown: positionally below ten to the power sixteen, with at
most four zeros behind the point. -/
def floatingFormat : Decimal.Format := ⟨16, 4⟩

def wholeLimit : Nat := UInt64.size

/-- The greatest power of ten by which a number is scaled in one step. -/
def greatestPower : Nat := 308

/-- The value of decimal digits that follow a number, as long as it fits into 64 bits, and how
many of the digits were taken. -/
def absorb (significand : Nat) : List Char → Nat × Nat
  | [] => (significand, 0)
  | digit :: others =>
    let next := significand * 10 + (digit.toNat - '0'.toNat)
    if next < wholeLimit then
      let (value, taken) := absorb next others
      (value, taken + 1)
    else
      (significand, 0)

/-- A magnitude divided by a power of ten, in steps of the greatest power. Three such steps leave
nothing of a number of 64 bits. -/
def scaleDown (value : Binary64) (power : Nat) : Nat → Binary64
  | 0 => Binary64.zero
  | steps + 1 =>
    let step := min power greatestPower
    let divisor := (Binary64.powerOfTen step).getD Binary64.zero
    let scaled := (value.dividedBy divisor).getD Binary64.zero
    if power ≤ greatestPower then scaled
    else if scaled.isZero then Binary64.zero
    else scaleDown scaled (power - greatestPower) steps

/-- A whole number times a power of ten, or nothing when the result is out of range. -/
def scaled (significand : Nat) (exponent : Int) : Option Binary64 :=
  let value := (Binary64.ofRatio significand 1).getD Binary64.zero
  if value.isZero then some Binary64.zero
  else if exponent < 0 then some (scaleDown value exponent.natAbs 4)
  else if greatestPower < exponent.natAbs then none
  else value.times ((Binary64.powerOfTen exponent.natAbs).getD Binary64.zero)

def message : Number → String
  | whole value => "integer `" ++ toString value ++ "`"
  | floating negative magnitude =>
    "floating point `" ++ (if negative then "-" else "") ++
      floatingFormat.write (Decimal.shortest magnitude) ++ "`"

end Number

end MailSpool.Json
