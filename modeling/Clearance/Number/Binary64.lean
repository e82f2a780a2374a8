/-
  Binary floating point numbers of 64 bits, as exact values.

  No arithmetic is done on these numbers: they are read from text, compared, and written
  back.  So a number is kept as the value it denotes, a sign, a significand and a power of
  two, and every question about it is settled in exact integer arithmetic.

  * `Binary64.nearest` rounds a decimal to the nearest number, a tie to the even one;
  * `Binary64.finite?` is the exact decimal value.

  Not-a-number values carry a tag that tells one occurrence from another: such a value is
  never equal to anything, and yet a container that holds it equals itself.
-/
import Clearance.Number.Finite

namespace Clearance

/-- A binary floating point number of 64 bits. -/
inductive Binary64 where
  /-- Not a number; the tag identifies the occurrence. -/
  | nan (tag : Nat)
  /-- Infinity or its negative. -/
  | infinite (negative : Bool)
  /-- The number `± significand · 2 ^ exponent`. -/
  | finite (negative : Bool) (significand : Nat) (exponent : Int)
deriving DecidableEq, Repr

namespace Binary64

/-- The number of significant bits. -/
def precision : Nat := 53

/-- The least exponent of a number, that of the subnormal ones. -/
def leastExponent : Int := -1074

/-- The greatest exponent of a number. -/
def greatestExponent : Int := 971

/-- The fraction rounded to the nearest integer, a tie to the even one. -/
def roundHalfEven (numerator denominator : Nat) : Nat :=
  let q := numerator / denominator
  let r := numerator % denominator
  if 2 * r < denominator then q
  else if 2 * r > denominator then q + 1
  else if q % 2 = 0 then q else q + 1

/-- The fraction over `2 ^ exponent`, rounded. -/
def significandAt (numerator denominator : Nat) (exponent : Int) : Nat :=
  if 0 ≤ exponent then roundHalfEven numerator (denominator * power 2 exponent.toNat)
  else roundHalfEven (numerator * power 2 (-exponent).toNat) denominator

/-- The exponent at which a positive fraction has its leading bit in the highest place of
    the significand, kept within the range of the format. -/
def exponentOf (numerator denominator : Nat) : Int :=
  let guess : Int := (numerator.log2 : Int) - denominator.log2 - (precision - 1)
  let below : Bool :=
    if 0 ≤ guess then numerator < denominator * power 2 (guess.toNat + (precision - 1))
    else numerator * power 2 (-guess).toNat < denominator * power 2 (precision - 1)
  max (if below then guess - 1 else guess) leastExponent

/-- The number nearest to `± coefficient · 10 ^ exponent`.  Far outside the range of the format
    the leading digit alone decides, so no large power is computed. -/
def nearest (x : Finite) : Binary64 :=
  if x.coefficient = 0 || x.leading < -400 then .finite x.negative 0 leastExponent
  else if x.leading > 400 then .infinite x.negative
  else
    let numerator :=
      if 0 ≤ x.exponent then x.coefficient * power 10 x.exponent.toNat else x.coefficient
    let denominator := if 0 ≤ x.exponent then 1 else power 10 (-x.exponent).toNat
    let e := exponentOf numerator denominator
    let m := significandAt numerator denominator e
    let (m, e) := if m = power 2 precision then (power 2 (precision - 1), e + 1) else (m, e)
    if e > greatestExponent then .infinite x.negative else .finite x.negative m e

/-- The exact decimal value of a number that has one. -/
def finite? : Binary64 → Option Finite
  | .nan _ | .infinite _ => none
  | .finite negative m e =>
    if 0 ≤ e then some ⟨negative, m * power 2 e.toNat, 0⟩
    else some ⟨negative, m * power 5 (-e).toNat, e⟩

end Binary64

end Clearance
