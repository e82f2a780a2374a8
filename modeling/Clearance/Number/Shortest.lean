/-
  The shortest text of a binary floating point number: the fewest decimal digits that read
  back as the same number and, of those, the ones nearest to it.

  The reals that round to a number form an interval around it; it holds its ends exactly
  if the significand is even.  For 1, 2, … 17 digits the two neighbours of the number on
  that decimal grid are tested against the interval in exact arithmetic; the first grid
  with a hit wins, and of two hits the nearer one.

  * `Binary64.shortest` gives the digits and their power of ten;
  * `Binary64.text` writes the number: positionally while the decimal point lies from four
    places before the first digit to sixteen places behind it, else with an exponent of
    at least two digits.
-/
import Clearance.Number.Binary64
import Clearance.Number.Numeral

namespace Clearance

namespace Binary64

/-- The numbers that a digit string is tested against, over one denominator. -/
structure Interval where
  low : Nat
  value : Nat
  high : Nat
  denominator : Nat
  closed : Bool

/-- The interval of reals that round to `significand · 2 ^ exponent`.  Below a power of two
    the neighbours are half as far apart. -/
def interval (significand : Nat) (exponent : Int) : Interval :=
  let below := if significand = power 2 (precision - 1) && exponent > leastExponent then 1 else 2
  let e := exponent - 2
  let scale := power 2 e.toNat
  { low := (4 * significand - below) * scale
    value := 4 * significand * scale
    high := (4 * significand + 2) * scale
    denominator := power 2 (-e).toNat
    closed := significand % 2 = 0 }

/-- The interval with its numbers divided by `10 ^ exponent`. -/
def Interval.unscale (i : Interval) (exponent : Int) : Interval :=
  let up := power 10 (-exponent).toNat
  { i with
    low := i.low * up, value := i.value * up, high := i.high * up
    denominator := i.denominator * power 10 exponent.toNat }

/-- Whether a whole number lies in the interval. -/
def Interval.holds (i : Interval) (n : Nat) : Bool :=
  let x := n * i.denominator
  if i.closed then i.low ≤ x && x ≤ i.high else i.low < x && x < i.high

/-- The whole number nearest to the value among its two neighbours that lie in the
    interval, if any does. -/
def Interval.nearestWhole? (i : Interval) : Option Nat :=
  let floor := i.value / i.denominator
  let remainder := i.value % i.denominator
  match i.holds floor, i.holds (floor + 1) with
  | true, true =>
    if 2 * remainder < i.denominator then some floor
    else if 2 * remainder > i.denominator then some (floor + 1)
    else if floor % 2 = 0 then some floor else some (floor + 1)
  | true, false => some floor
  | false, true => some (floor + 1)
  | false, false => none

/-- The exponent of the leading decimal digit of a positive fraction. -/
def leadingExponent (numerator denominator : Nat) : Int :=
  let guess : Int := (digitCount numerator : Int) - digitCount denominator
  let reaches : Bool :=
    numerator * power 10 (-guess).toNat ≥ denominator * power 10 guess.toNat
  if reaches then guess else guess - 1

/-- Tries grids of more and more digits, and takes the last one whatever it gives. -/
def searchGrid (i : Interval) (leading : Int) (tried : Nat) : Nat → Nat × Int
  | 0 =>
    let e := leading - 16
    ((i.unscale e).value / (i.unscale e).denominator, e)
  | more + 1 =>
    let e := leading - tried
    match (i.unscale e).nearestWhole? with
    | some n => (n, e)
    | none => searchGrid i leading (tried + 1) more

/-- The digits of a positive number and the exponent of the last of them. -/
def shortest (significand : Nat) (exponent : Int) : Nat × Int :=
  let i := interval significand exponent
  searchGrid i (leadingExponent i.value i.denominator) 0 17

/-- The digits of a coefficient without the zeros at its end, and the place of the decimal
    point counted from the first digit. -/
def significantDigits (coefficient : Nat) (exponent : Int) : List Char × Int :=
  let digits := Nat.toDigits 10 coefficient
  ((digits.reverse.dropWhile (· == '0')).reverse, digits.length + exponent)

/-- An exponent with its sign and at least two digits. -/
def exponentText (e : Int) : List Char :=
  let digits := Nat.toDigits 10 e.natAbs
  (if e < 0 then '-' else '+') :: (if digits.length < 2 then '0' :: digits else digits)

/-- How digits are written with their decimal point. -/
structure Layout where
  /-- How many digits may stand before the point; beyond that there is an exponent. -/
  widest : Nat
  /-- Whether a single digit in front of an exponent stands without a point. -/
  bare : Bool

/-- Digits with the decimal point in place, positionally or with an exponent. -/
def Layout.write (l : Layout) (digits : List Char) (point : Int) : List Char :=
  let orZero (cs : List Char) : List Char := if cs.isEmpty then ['0'] else cs
  if -4 < point ∧ point ≤ l.widest then
    if point ≤ 0 then '0' :: '.' :: (List.replicate (-point).toNat '0' ++ digits)
    else
      let whole := digits.take point.toNat
      let padding := List.replicate (point.toNat - digits.length) '0'
      whole ++ padding ++ '.' :: orZero (digits.drop point.toNat)
  else
    let rest := digits.drop 1
    let fraction := if l.bare && rest.isEmpty then [] else '.' :: orZero rest
    digits.take 1 ++ fraction ++ 'e' :: exponentText (point - 1)

/-- Up to sixteen digits stand before the point, and a lone digit before an exponent. -/
def shortLayout : Layout := ⟨16, true⟩

/-- The text of a number: the shortest that reads back. -/
def text : Binary64 → String
  | .nan _ => "nan"
  | .infinite negative => if negative then "-inf" else "inf"
  | .finite negative significand exponent =>
    let body :=
      if significand = 0 then ['0', '.', '0']
      else
        let (n, e) := shortest significand exponent
        let (digits, point) := significantDigits n e
        shortLayout.write digits point
    String.ofList (if negative then '-' :: body else body)

/-- Reads a numeral, `inf`, `-inf` or `nan`; a not-a-number value gets the tag. -/
def ofText? (s : String) (tag : Nat) : Option Binary64 :=
  let (negative, cs) := Numeral.splitSign s.toList
  if cs == ['i', 'n', 'f'] then some (.infinite negative)
  else if cs == ['n', 'a', 'n'] then some (.nan tag)
  else (Numeral.unsigned? negative cs).map nearest

end Binary64

end Clearance
