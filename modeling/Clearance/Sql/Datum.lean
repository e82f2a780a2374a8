/-
  Data in a SQL database and how they compare.

  A datum is of one of five classes, and the classes are ordered: numbers come before texts
  and texts before byte strings; null has no place.  Before a comparison the type of a column
  makes the other side fit: against a column of numbers a text is read as a number if it is
  the numeral of one, and against a column of texts a number is written as text.

  * `Datum.ofValue` is the datum that a value is bound as, `Datum.stored` what a column of a
    type makes of it;
  * `Datum.compare?` is the order, `fit` the adjustment before a comparison;
  * `likeText?` is the text of a datum for `LIKE`, and `isLike` decides `LIKE` on texts;
  * `and3`, `or3` and `not3` are the connectives on truth values that may be missing.
-/
import Clearance.Error.Basic
import Clearance.Pattern.Like
import Clearance.Value.Order
import Clearance.Sql.Clause

namespace Clearance.Sql

/-- A datum in a database. -/
inductive Datum where
  | null
  | integer (i : Int)
  | real (x : Binary64)
  | text (s : String)
  | blob (bs : List UInt8)
deriving DecidableEq, Repr

namespace Datum

/-! ## From values -/

/-- The datum of a floating point number; what is not a number is null. -/
def ofFloat : Binary64 → Datum
  | .nan _ => null
  | x => real x

/-- The datum of a decimal number, as the nearest floating point number. -/
def ofDecimal : Decimal → Result Datum
  | .finite x => .ok (real (.nearest x))
  | .infinite negative => .ok (real (.infinite negative))
  | .nan _ signaling _ _ => if signaling then .error .databaseFailure else .ok null

/-- The text under which a time of day is stored. -/
def timeText (t : TimeOfDay) : String :=
  ({ t with microsecond := 0, offset := none } : TimeOfDay).text ++ "." ++ padded 6 t.microsecond

/-- Whether an integer fits into 64 bits. -/
def hasWordSize (i : Int) : Bool := -9223372036854775808 ≤ i && i < 9223372036854775808

/-- The datum that a scalar is bound as; integers have 64 bits. -/
def ofScalar : Scalar → Result Datum
  | .null => .ok null
  | .bool b => .ok (integer (if b then 1 else 0))
  | .int i => if hasWordSize i then .ok (integer i) else .error .integerTooLarge
  | .float x => .ok (ofFloat x)
  | .decimal d => ofDecimal d
  | .str s => .ok (text s)
  | .date d => .ok (text d.text)
  | .datetime t => .ok (text (t.date.text ++ " " ++ timeText t.time))
  | .time t => .ok (text (timeText t))
  | .uuid u => .ok (text (String.ofList (hexPadded 32 u.value)))

/-- The datum that a value is bound as. -/
def ofValue : Value → Result Datum
  | .scalar s => ofScalar s
  | .bytes bs => .ok (blob bs)
  | _ => .error .databaseFailure

/-- The datum of a value; null for a value that cannot be bound. -/
def ofValueOrNull (v : Value) : Datum :=
  match ofValue v with
  | .ok d => d
  | .error _ => null

/-! ## Fitting -/

/-- Whether a character is a blank around a numeral. -/
def isBlank (c : Char) : Bool := c == ' ' || (9 ≤ c.toNat && c.toNat ≤ 13)

/-- The number that a text is the numeral of; integers of 64 bits are kept exactly. -/
def numberOfText? (s : String) : Option Datum :=
  let trimmed := (s.toList.dropWhile isBlank).reverse.dropWhile isBlank |>.reverse
  let (negative, cs) := Numeral.splitSign trimmed
  if !cs.isEmpty && cs.all Char.isDigit then
    let i : Int := if negative then -(Numeral.digitsValue cs : Int) else Numeral.digitsValue cs
    if hasWordSize i then some (integer i)
    else some (real (.nearest (.ofInt i)))
  else (Numeral.unsigned? negative cs).map fun x => real (.nearest x)

/-- A datum read as a number, if it is the numeral of one. -/
def asNumber : Datum → Datum
  | text s => (numberOfText? s).getD (text s)
  | d => d

/-- The digits of a number, rounded to fifteen, and the place of its decimal point. -/
def roundedDigits (x : Finite) : List Char × Int :=
  let surplus := digitCount x.coefficient - 15
  let half := if surplus = 0 then 0 else 5 * power 10 (surplus - 1)
  Binary64.significantDigits ((x.coefficient + half) / power 10 surplus) (x.exponent + surplus)

/-- The text of a real number: fifteen digits of it, of which at least one behind the
    point. -/
def realText : Binary64 → String
  | .nan _ => ""
  | .infinite negative => if negative then "-Inf" else "Inf"
  | .finite negative significand exponent =>
    match (Binary64.finite negative significand exponent).finite? with
    | none => ""
    | some x =>
      if x.coefficient = 0 then "0.0"
      else
        let (digits, point) := roundedDigits x
        let body := (⟨15, false⟩ : Binary64.Layout).write digits point
        String.ofList (if negative then '-' :: body else body)

/-- The text of a datum; null and byte strings have none. -/
def text? : Datum → Option String
  | text s => some s
  | integer i => some (toString i)
  | real x => some (realText x)
  | _ => none

/-- A number written as text. -/
def asText (d : Datum) : Datum := (d.text?.map text).getD d

/-- The character that stands for what is not the code of a character. -/
def replacement : Char := '\ufffd'

/-- The part of a byte that counts in front of a sequence of bytes. -/
def leadBits (b : Nat) : Nat :=
  if b < 0xe0 then b % 32 else if b < 0xf0 then b % 16 else if b < 0xf8 then b % 8
  else if b < 0xfc then b % 4 else if b < 0xfe then b % 2 else 0

/-- The character of a code that was read off several bytes. -/
def charOfCode (n : Nat) : Char :=
  if n < 0x80 then replacement
  else if h : n.isValidChar then Char.ofNatAux n h
  else replacement

/-- Whether a byte goes on with the character in front of it. -/
def isTrailing (b : Nat) : Bool := 0x80 ≤ b && b < 0xc0

/-- The characters of a byte string.  A byte of its own is a character with its code. -/
def readBytes : List Nat → List Char
  | [] => []
  | b :: rest =>
    if b < 0xc0 then Char.ofNat b :: readBytes rest
    else
      charOfCode ((rest.takeWhile isTrailing).foldl (fun n t => n * 64 + t % 64) (leadBits b)) ::
        readBytes (rest.dropWhile isTrailing)
termination_by bytes => bytes.length
decreasing_by
  · simp
  · have := (List.dropWhile_sublist isTrailing (l := rest)).length_le
    simp only [List.length_cons]
    omega

/-- The text that `LIKE` sees: numbers are written as texts and byte strings read as such;
    null has none. -/
def likeText? : Datum → Option String
  | blob bs => some (String.ofList (readBytes (bs.map UInt8.toNat)))
  | d => d.text?

/-- What a column of a type stores for a datum. -/
def stored (type : ColumnType) (d : Datum) : Datum :=
  if type.isNumeric then d.asNumber else d.asText

/-- Adjusts two data before they are compared, by the types of the columns they are from. -/
def fit (left right : Option ColumnType) (x y : Datum) : Datum × Datum :=
  match left.map ColumnType.isNumeric, right.map ColumnType.isNumeric with
  | some true, some true | none, none => (x, y)
  | some true, _ => (x, y.asNumber)
  | _, some true => (x.asNumber, y)
  | some false, none => (x, y.asText)
  | none, some false => (x.asText, y)
  | some false, some false => (x, y)

/-! ## Order -/

/-- The class of a datum, in the order of classes. -/
def rank : Datum → Nat
  | null => 0
  | integer _ | real _ => 1
  | text _ => 2
  | blob _ => 3

/-- A datum that is a number, as an exact one. -/
def number? : Datum → Option Numeral.Kind
  | integer i => some (.finite (.ofInt i))
  | real x => (Scalar.float x).numeral?
  | _ => none

/-- The order of data that are not null. -/
def compare? (x y : Datum) : Option Ordering :=
  match x, y with
  | null, _ | _, null => none
  | text s, text t => some (compareOfLessAndEq s t)
  | blob a, blob b => some (Ord.compare a b)
  | x, y =>
    match x.number?, y.number? with
    | some a, some b => a.compare? b
    | _, _ => some (Ord.compare x.rank y.rank)

/-- Whether two data are the same, null included. -/
def isSame (x y : Datum) : Bool :=
  match x, y with
  | null, null => true
  | x, y => x.compare? y == some .eq

/-! ## Texts -/

/-- The part of a text in front of its first null character. -/
def beforeNull (s : String) : List Char := s.toList.takeWhile (· != '\x00')

/-- A text with the ASCII letters in lower case. -/
def lowered (s : String) : String := String.ofList (s.toList.map Char.toLower)

/-- A character as `LIKE` reads it: two codes count as those of no character. -/
def likeChar (c : Char) : Char := if c == '\ufffe' || c == '\uffff' then replacement else c

/-- What `LIKE` reads of a text. -/
def likeRead (s : String) : List Char := (beforeNull s).map likeChar

/-- Whether a text is like a pattern; missing where one of them is. -/
def isLike (escape : Char) (pattern text : Option String) : Option Bool := do
  return Pattern.likeMatches escape (likeRead (← pattern)) (likeRead (← text))

end Datum

/-! ## Truth values that may be missing -/

/-- Conjunction. -/
def and3 : Option Bool → Option Bool → Option Bool
  | some false, _ | _, some false => some false
  | some true, b => b
  | none, _ => none

/-- Disjunction. -/
def or3 : Option Bool → Option Bool → Option Bool
  | some true, _ | _, some true => some true
  | some false, b => b
  | none, _ => none

/-- Negation. -/
def not3 (b : Option Bool) : Option Bool := b.map (!·)

end Clearance.Sql
