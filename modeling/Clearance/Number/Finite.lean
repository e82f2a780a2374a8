/-
  Finite decimal numbers and their exact order.

  A `Finite` is a sign, a coefficient and a power of ten.  Integers, binary floating
  point numbers and decimals all have an exact value of this form, so this one order
  compares numbers of different kinds without rounding.

  * `compareMagnitude` decides by the position of the leading digit and, where that is the
    same, on the coefficients brought to one exponent: no power larger than the difference
    of the digit counts is ever computed;
  * `Finite.compare` adds the signs; the two zeros are equal.
-/
import Clearance.Number.Power

namespace Clearance

/-- How many decimal digits a number has; zero has one. -/
def digitCount (n : Nat) : Nat := (Nat.toDigits 10 n).length

/-- The number `± coefficient · 10 ^ exponent`. -/
structure Finite where
  negative : Bool
  coefficient : Nat
  exponent : Int
deriving DecidableEq, Repr

namespace Finite

/-- The finite number of an integer. -/
def ofInt (i : Int) : Finite := ⟨i < 0, i.natAbs, 0⟩

/-- The exponent of the leading digit. -/
def leading (x : Finite) : Int := x.exponent + digitCount x.coefficient - 1

/-- The coefficient of a number written with a smaller or equal exponent. -/
def scaled (x : Finite) (exponent : Int) : Nat :=
  x.coefficient * power 10 (x.exponent - exponent).toNat

/-- Compares the absolute values. -/
def compareMagnitude (x y : Finite) : Ordering :=
  if x.coefficient = 0 then
    if y.coefficient = 0 then .eq else .lt
  else if y.coefficient = 0 then .gt
  else
    match Ord.compare x.leading y.leading with
    | .eq =>
      let e := min x.exponent y.exponent
      Ord.compare (x.scaled e) (y.scaled e)
    | order => order

/-- Whether a number is less than zero. -/
def isBelowZero (x : Finite) : Bool := x.negative && x.coefficient != 0

/-- The order of the numbers as exact values. -/
def compare (x y : Finite) : Ordering :=
  match x.isBelowZero, y.isBelowZero with
  | false, false => compareMagnitude x y
  | true, true => compareMagnitude y x
  | true, false => .lt
  | false, true => .gt

end Finite

end Clearance
