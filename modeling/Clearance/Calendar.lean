/-
  Dates, times of day and their combination, with or without an offset from universal time.

  * `Date.ordinal` counts days, `TimeOfDay.micros` microseconds since midnight, and
    `DateTime.micros` the two together; with an offset they count in universal time;
  * `TimeOfDay.compare?` and `DateTime.compare?` order two times as instants; a time with an
    offset and one without are not comparable;
  * `text` writes and `ofText?` reads the ISO form, in which the microseconds are six
    digits, left out when zero;
  * `display` is the text used inside messages.
-/
import Clearance.Number.Numeral

namespace Clearance

/-- A day of the proleptic Gregorian calendar. -/
structure Date where
  year : Nat
  month : Nat
  day : Nat
deriving DecidableEq, Repr

/-- A time of day; the offset from universal time, if known, is in seconds. -/
structure TimeOfDay where
  hour : Nat
  minute : Nat
  second : Nat
  microsecond : Nat
  offset : Option Int
deriving DecidableEq, Repr

/-- A time on a day. -/
structure DateTime where
  date : Date
  time : TimeOfDay
deriving DecidableEq, Repr

/-! ## Order -/

/-- The number of leap days in the years before a year. -/
def leapDaysBefore (year : Nat) : Nat :=
  let y := year - 1
  y / 4 - y / 100 + y / 400

/-- Whether a year has a leap day. -/
def isLeapYear (year : Nat) : Bool := year % 4 = 0 && (year % 100 != 0 || year % 400 = 0)

/-- The number of days of a year before a month. -/
def daysBeforeMonth (year month : Nat) : Nat :=
  let days := [0, 0, 31, 59, 90, 120, 151, 181, 212, 243, 273, 304, 334].getD month 0
  if month > 2 && isLeapYear year then days + 1 else days

/-- The number of a day, counted from the first day of year one. -/
def Date.ordinal (d : Date) : Nat :=
  (d.year - 1) * 365 + leapDaysBefore d.year + daysBeforeMonth d.year d.month + d.day

/-- The order of days. -/
def Date.compare (a b : Date) : Ordering :=
  (Ord.compare a.year b.year).then ((Ord.compare a.month b.month).then (Ord.compare a.day b.day))

/-- Microseconds since midnight, by the clock on the wall. -/
def TimeOfDay.micros (t : TimeOfDay) : Nat :=
  ((t.hour * 60 + t.minute) * 60 + t.second) * 1000000 + t.microsecond

/-- Compares two counts of microseconds, each with the offset of its clock; a clock with an
    offset and one without have no common scale. -/
def compareClocks (a : Int) (offset : Option Int) (b : Int) (offset' : Option Int) :
    Option Ordering :=
  match offset, offset' with
  | none, none => some (Ord.compare a b)
  | some o, some o' => some (Ord.compare (a - o * 1000000) (b - o' * 1000000))
  | _, _ => none

/-- The order of times of day. -/
def TimeOfDay.compare? (a b : TimeOfDay) : Option Ordering :=
  compareClocks a.micros a.offset b.micros b.offset

/-- Microseconds since the first day of year one, by the clock on the wall. -/
def DateTime.micros (t : DateTime) : Nat := t.date.ordinal * 86400000000 + t.time.micros

/-- The order of times on days. -/
def DateTime.compare? (a b : DateTime) : Option Ordering :=
  compareClocks a.micros a.time.offset b.micros b.time.offset

/-! ## Writing -/

/-- A number with zeros put in front up to a width. -/
def padded (width n : Nat) : String :=
  let digits := Nat.toDigits 10 n
  String.ofList (List.replicate (width - digits.length) '0' ++ digits)

/-- The ISO text of a day. -/
def Date.text (d : Date) : String :=
  padded 4 d.year ++ "-" ++ padded 2 d.month ++ "-" ++ padded 2 d.day

/-- The ISO text of an offset; seconds are shown if there are any. -/
def offsetText (offset : Int) : String :=
  let n := offset.natAbs
  (if offset < 0 then "-" else "+") ++ padded 2 (n / 3600) ++ ":" ++ padded 2 (n / 60 % 60) ++
    (if n % 60 = 0 then "" else ":" ++ padded 2 (n % 60))

/-- The ISO text of a time of day. -/
def TimeOfDay.text (t : TimeOfDay) : String :=
  padded 2 t.hour ++ ":" ++ padded 2 t.minute ++ ":" ++ padded 2 t.second ++
    (if t.microsecond = 0 then "" else "." ++ padded 6 t.microsecond) ++
    (t.offset.map offsetText).getD ""

/-- The ISO text of a time on a day. -/
def DateTime.text (t : DateTime) : String := t.date.text ++ "T" ++ t.time.text

/-! ## Texts in messages -/

/-- The offset as an argument of the text of a time. -/
def offsetArgument : Option Int → List String
  | none => []
  | some 0 => ["tzinfo=datetime.timezone.utc"]
  | some offset =>
    let delta :=
      if 0 ≤ offset then "seconds=" ++ toString offset
      else "days=-1, seconds=" ++ toString (offset + 86400)
    ["tzinfo=datetime.timezone(datetime.timedelta(" ++ delta ++ "))"]

/-- Seconds and microseconds as arguments, left out from the right while zero. -/
def TimeOfDay.fineArguments (t : TimeOfDay) : List String :=
  if t.microsecond != 0 then [toString t.second, toString t.microsecond]
  else if t.second != 0 then [toString t.second]
  else []

/-- The text of a day in a message. -/
def Date.display (d : Date) : String :=
  "datetime.date(" ++ ", ".intercalate [toString d.year, toString d.month, toString d.day] ++ ")"

/-- The text of a time of day in a message. -/
def TimeOfDay.display (t : TimeOfDay) : String :=
  "datetime.time(" ++
    ", ".intercalate ([toString t.hour, toString t.minute] ++ t.fineArguments ++
      offsetArgument t.offset) ++ ")"

/-- The text of a time on a day in a message. -/
def DateTime.display (t : DateTime) : String :=
  "datetime.datetime(" ++
    ", ".intercalate ([toString t.date.year, toString t.date.month, toString t.date.day,
      toString t.time.hour, toString t.time.minute] ++ t.time.fineArguments ++
      offsetArgument t.time.offset) ++ ")"

/-! ## Reading -/

/-- A fixed number of digits at the front of a text. -/
def takeDigits? (count : Nat) (cs : List Char) : Option (Nat × List Char) :=
  let digits := cs.take count
  if digits.length = count && digits.all Char.isDigit then
    some (Numeral.digitsValue digits, cs.drop count)
  else none

/-- Two digits behind a colon, if there is a colon. -/
def takeField? : List Char → Option (Nat × List Char)
  | ':' :: rest => takeDigits? 2 rest
  | rest => some (0, rest)

/-- A fraction of a second, in microseconds; digits behind the sixth are dropped. -/
def takeFraction : List Char → Nat × List Char
  | '.' :: rest =>
    let digits := rest.takeWhile Char.isDigit
    let six := digits.take 6
    (Numeral.digitsValue six * power 10 (6 - six.length), rest.dropWhile Char.isDigit)
  | rest => (0, rest)

/-- An offset at the end of a text; `some none` if there is none. -/
def takeOffset? : List Char → Option (Option Int)
  | [] => some none
  | ['Z'] => some (some 0)
  | c :: rest =>
    if c == '+' || c == '-' then do
      let (hours, rest) ← takeDigits? 2 rest
      let (minutes, rest) ← takeField? rest
      let (seconds, rest) ← takeField? rest
      let n : Int := (hours * 60 + minutes) * 60 + seconds
      if rest.isEmpty then some (some (if c == '-' then -n else n)) else none
    else none

/-- Reads a day off the front of a text. -/
def takeDate? (cs : List Char) : Option (Date × List Char) := do
  let (year, rest) ← takeDigits? 4 cs
  let rest ← if rest.head? = some '-' then some (rest.drop 1) else none
  let (month, rest) ← takeDigits? 2 rest
  let rest ← if rest.head? = some '-' then some (rest.drop 1) else none
  let (day, rest) ← takeDigits? 2 rest
  return (⟨year, month, day⟩, rest)

/-- Reads a time of day. -/
def takeTime? (cs : List Char) : Option TimeOfDay := do
  let (hour, rest) ← takeDigits? 2 cs
  let (minute, rest) ← takeField? rest
  let (second, rest) ← takeField? rest
  let (microsecond, rest) := takeFraction rest
  let offset ← takeOffset? rest
  return ⟨hour, minute, second, microsecond, offset⟩

/-- Reads the ISO text of a day. -/
def Date.ofText? (s : String) : Option Date := do
  let (d, rest) ← takeDate? s.toList
  if rest.isEmpty then some d else none

/-- Reads the ISO text of a time of day. -/
def TimeOfDay.ofText? (s : String) : Option TimeOfDay := takeTime? s.toList

/-- Reads the ISO text of a time on a day; a day alone is its midnight. -/
def DateTime.ofText? (s : String) : Option DateTime := do
  let (d, rest) ← takeDate? s.toList
  if rest.isEmpty then some ⟨d, ⟨0, 0, 0, 0, none⟩⟩
  else return ⟨d, ← takeTime? (rest.drop 1)⟩

end Clearance
