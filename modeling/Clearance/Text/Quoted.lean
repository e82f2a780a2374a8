/-
  Quoted texts, as messages show them.

  The quote is the apostrophe, unless the text holds an apostrophe and no double quote.
  The quote and the backslash are escaped with a backslash, the line feed, the return and
  the tab have escapes of their own, and any other character that is not printable is
  shown by its code in two, four or eight hexadecimal digits.

  * `quoted` is the quoted form of a text, `quotedBytes` that of a byte string, in which
    only the printable ASCII characters are shown as they are.
-/
import Clearance.Text.Printable
import Clearance.Uuid

namespace Clearance.Text

/-- The quote that a text is put in. -/
def quoteOf (cs : List Char) : Char :=
  if cs.contains '\'' && !cs.contains '"' then '"' else '\''

/-- A character shown by its code. -/
def codeEscape (n : Nat) : List Char :=
  if n < 256 then '\\' :: 'x' :: hexPadded 2 n
  else if n < 65536 then '\\' :: 'u' :: hexPadded 4 n
  else '\\' :: 'U' :: hexPadded 8 n

/-- A character inside quotes, given which characters need no code. -/
def escapeChar (plain : Char → Bool) (quote c : Char) : List Char :=
  if c = quote || c = '\\' then ['\\', c]
  else if c = '\n' then ['\\', 'n']
  else if c = '\r' then ['\\', 'r']
  else if c = '\t' then ['\\', 't']
  else if plain c then [c]
  else codeEscape c.toNat

/-- A text in quotes, given which characters need no code. -/
def quoteWith (plain : Char → Bool) (cs : List Char) : List Char :=
  let quote := quoteOf cs
  quote :: (cs.flatMap (escapeChar plain quote) ++ [quote])

/-- A text in quotes. -/
def quoted (s : String) : String := String.ofList (quoteWith isPrintable s.toList)

/-- Whether a character is a printable ASCII one. -/
def isPlainAscii (c : Char) : Bool := 32 ≤ c.toNat && c.toNat < 127

/-- A byte string in quotes, marked by a letter in front. -/
def quotedBytes (bytes : List UInt8) : String :=
  String.ofList ('b' :: quoteWith isPlainAscii (bytes.map fun b => Char.ofNat b.toNat))

end Clearance.Text
