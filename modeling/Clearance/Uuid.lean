/-
  Universally unique identifiers, as 128-bit numbers.

  * `Uuid.text` writes the 32 hexadecimal digits in groups of 8, 4, 4, 4 and 12;
  * `Uuid.ofText?` reads them, in either case and with hyphens anywhere.
-/

namespace Clearance

/-- A universally unique identifier. -/
structure Uuid where
  value : Nat
deriving DecidableEq, Repr

/-- The value of a hexadecimal digit. -/
def hexDigit? (c : Char) : Option Nat :=
  if c.isDigit then some (c.toNat - '0'.toNat)
  else if 'a' ≤ c && c ≤ 'f' then some (c.toNat - 'a'.toNat + 10)
  else if 'A' ≤ c && c ≤ 'F' then some (c.toNat - 'A'.toNat + 10)
  else none

/-- A number in hexadecimal digits, with zeros put in front up to a width. -/
def hexPadded (width n : Nat) : List Char :=
  let digits := Nat.toDigits 16 n
  List.replicate (width - digits.length) '0' ++ digits

/-- The bytes that pairs of hexadecimal digits denote. -/
def bytesOfHex? : List Char → Option (List UInt8)
  | [] => some []
  | [_] => none
  | a :: b :: rest => do
    let high ← hexDigit? a
    let low ← hexDigit? b
    return UInt8.ofNat (high * 16 + low) :: (← bytesOfHex? rest)

/-- Bytes as pairs of hexadecimal digits. -/
def hexOfBytes (bytes : List UInt8) : String :=
  String.ofList (bytes.flatMap fun b => hexPadded 2 b.toNat)

namespace Uuid

/-- The hyphenated text. -/
def text (u : Uuid) : String :=
  let digits := hexPadded 32 u.value
  let group (start count : Nat) : String := String.ofList ((digits.drop start).take count)
  "-".intercalate [group 0 8, group 8 4, group 12 4, group 16 4, group 20 12]

/-- Reads the hexadecimal digits of an identifier. -/
def ofText? (s : String) : Option Uuid := do
  let digits ← (s.toList.filter (· != '-')).mapM hexDigit?
  if digits.length = 32 then some ⟨digits.foldl (fun n d => 16 * n + d) 0⟩ else none

end Uuid

end Clearance
