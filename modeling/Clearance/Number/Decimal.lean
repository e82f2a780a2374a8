/-
  Decimal numbers as written: a sign, a coefficient and an exponent, so that `1.50` and
  `1.5` are equal numbers and different texts; besides them infinity and the two kinds of
  not-a-number values.

  * `Decimal.ofText?` reads a numeral;
  * `Decimal.text` writes it: positionally while the exponent is not positive and the
    leading digit is at most six places behind the point, else with an exponent.
-/
import Clearance.Number.Numeral

namespace Clearance

/-- A decimal number. -/
inductive Decimal where
  /-- A finite number, with the exponent it was written with. -/
  | finite (value : Finite)
  /-- Infinity or its negative. -/
  | infinite (negative : Bool)
  /-- Not a number, with the digits of its payload (zero for none) and a tag that tells
      one occurrence from another. -/
  | nan (negative signaling : Bool) (payload : Nat) (tag : Nat)
deriving DecidableEq, Repr

namespace Decimal

/-! ## Reading -/

open Numeral

/-- The payload digits behind the word for a not-a-number value. -/
def payloadOf? (cs : List Char) : Option Nat :=
  if cs.all Char.isDigit then some (digitsValue cs) else none

/-- Reads a numeral.  The words for infinity and not-a-number values count in any case of
    letters; a not-a-number value gets the tag. -/
def ofText? (s : String) (tag : Nat) : Option Decimal :=
  let (negative, cs) := splitSign s.toList
  match cs.map Char.toLower with
  | 'i' :: 'n' :: 'f' :: [] | 'i' :: 'n' :: 'f' :: 'i' :: 'n' :: 'i' :: 't' :: 'y' :: [] =>
    some (.infinite negative)
  | 'n' :: 'a' :: 'n' :: rest => (payloadOf? rest).map fun p => .nan negative false p tag
  | 's' :: 'n' :: 'a' :: 'n' :: rest => (payloadOf? rest).map fun p => .nan negative true p tag
  | _ => (unsigned? negative cs).map .finite

/-! ## Writing -/

/-- The digits of a finite number with the decimal point in place. -/
def layout (coefficient : Nat) (exponent : Int) : List Char :=
  let digits := Nat.toDigits 10 coefficient
  let leading := exponent + digits.length - 1
  if exponent ≤ 0 ∧ -6 ≤ leading then
    if exponent = 0 then digits
    else
      let behind := (-exponent).toNat
      if behind < digits.length then
        digits.take (digits.length - behind) ++ '.' :: digits.drop (digits.length - behind)
      else '0' :: '.' :: (List.replicate (behind - digits.length) '0' ++ digits)
  else
    let rest := digits.drop 1
    let mark := if leading < 0 then '-' else '+'
    digits.take 1 ++ (if rest.isEmpty then [] else '.' :: rest) ++
      'E' :: mark :: Nat.toDigits 10 leading.natAbs

/-- The text of a decimal number. -/
def text : Decimal → String
  | .finite x =>
    let body := layout x.coefficient x.exponent
    String.ofList (if x.negative then '-' :: body else body)
  | .infinite negative => if negative then "-Infinity" else "Infinity"
  | .nan negative signaling payload _ =>
    (if negative then "-" else "") ++ (if signaling then "sNaN" else "NaN") ++
      (if payload = 0 then "" else toString payload)

end Decimal

end Clearance
