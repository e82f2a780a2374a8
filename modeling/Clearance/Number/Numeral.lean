/-
  Decimal numerals: digits with an optional point and an optional exponent.

  * `Numeral.unsigned?` reads one, the sign having been taken off before;
  * `Numeral.digitsValue` is the number that digits denote.
-/
import Clearance.Number.Finite

namespace Clearance

namespace Numeral

/-- The number that a list of decimal digits denotes. -/
def digitsValue (digits : List Char) : Nat :=
  digits.foldl (fun n c => 10 * n + (c.toNat - '0'.toNat)) 0

/-- Splits the digits at the front off a text. -/
def splitDigits (cs : List Char) : List Char × List Char :=
  (cs.takeWhile Char.isDigit, cs.dropWhile Char.isDigit)

/-- Splits a sign at the front off a text; there need be none. -/
def splitSign : List Char → Bool × List Char
  | '-' :: rest => (true, rest)
  | '+' :: rest => (false, rest)
  | rest => (false, rest)

/-- An exponent, as written behind the mark `e`; no text at all stands for zero. -/
def exponentOf? : List Char → Option Int
  | [] => some 0
  | c :: rest =>
    if c == 'e' || c == 'E' then
      let (negative, rest) := splitSign rest
      if !rest.isEmpty && rest.all Char.isDigit then
        some (if negative then -(digitsValue rest : Int) else digitsValue rest)
      else none
    else none

/-- A finite numeral without its sign. -/
def unsigned? (negative : Bool) (cs : List Char) : Option Finite :=
  let (whole, rest) := splitDigits cs
  let (fraction, rest) :=
    match rest with
    | '.' :: rest => splitDigits rest
    | rest => ([], rest)
  if whole.isEmpty && fraction.isEmpty then none
  else
    (exponentOf? rest).map fun e =>
      ⟨negative, digitsValue (whole ++ fraction), e - fraction.length⟩

end Numeral

end Clearance
