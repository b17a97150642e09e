/-!
# Binary floating point

The numbers of the 64-bit binary format as exact values, and the reading of a decimal into the
nearest of them, ties going to the even significand.
-/

namespace ProseGuard.Json

/-- A number of the 64-bit binary format; a finite one is `significand * 2 ^ exponent`. -/
inductive Binary64 where
  | finite (significand : Int) (exponent : Int)
  | infinite
  | notANumber
deriving DecidableEq

/-- The quotient of two naturals rounded to the nearest, a tie to the even neighbour. -/
def roundHalfEven (numerator denominator : Nat) : Nat :=
  let quotient := numerator / denominator
  let twice := 2 * (numerator % denominator)
  if twice < denominator then quotient
  else if twice = denominator then quotient + quotient % 2
  else quotient + 1

namespace Binary64

/-- The nearest number to a positive fraction. -/
def ofFraction (negative : Bool) (numerator denominator : Nat) : Binary64 :=
  let estimate : Int := numerator.log2 - denominator.log2
  let atLeast : Bool :=
    if 0 ≤ estimate then decide (denominator * Nat.pow 2 estimate.toNat ≤ numerator)
    else decide (denominator ≤ numerator * Nat.pow 2 (-estimate).toNat)
  let exponent : Int := max (-1074) ((if atLeast then estimate else estimate - 1) - 52)
  let significand :=
    if 0 ≤ exponent then roundHalfEven numerator (denominator * Nat.pow 2 exponent.toNat)
    else roundHalfEven (numerator * Nat.pow 2 (-exponent).toNat) denominator
  if Nat.pow 2 1024 ≤ significand * Nat.pow 2 exponent.toNat then infinite
  else finite (if negative then -significand else significand) exponent

/-- The nearest number to a decimal with the given digits and power of ten. -/
def ofDecimal (negative : Bool) (digits : Nat) (power : Int) : Binary64 :=
  let size : Int := power + (Nat.log2 digits) / 3
  if digits = 0 then finite 0 0
  else if 400 < power then infinite
  else if size < -400 then finite 0 0
  else if 0 ≤ power then ofFraction negative (digits * Nat.pow 10 power.toNat) 1
  else ofFraction negative digits (Nat.pow 10 (-power).toNat)

/-- The value as an integer, if it is one. -/
def toInt? : Binary64 → Option Int
  | finite significand exponent =>
    if 0 ≤ exponent then some (significand * Nat.pow 2 exponent.toNat)
    else if significand % Nat.pow 2 (-exponent).toNat = 0 then
      some (significand / Nat.pow 2 (-exponent).toNat)
    else none
  | _ => none

end Binary64

end ProseGuard.Json
