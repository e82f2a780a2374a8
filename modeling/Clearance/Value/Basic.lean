/-
  The data that rules are decided on: actors, records and their fields.

  A `Scalar` is a value that may stand in a rule and in a column.  A `Value` is a scalar, a
  byte string, a sequence, a set, a dictionary or a record with named attributes.

  * `typeName` is the word for a value's type in messages;
  * `Value.field?` reads a field of a dictionary or a record, `Value.field` with a default;
  * `Value.rows?` is the content of the sequences that may serve as related rows;
  * `Value.withField?` is a dictionary with one field set.
-/
import Clearance.Keyed
import Clearance.Number.Shortest
import Clearance.Number.Decimal
import Clearance.Calendar
import Clearance.Uuid

namespace Clearance

/-- A value that may stand in a rule and in a column. -/
inductive Scalar where
  | null
  | bool (b : Bool)
  | int (i : Int)
  | float (x : Binary64)
  | decimal (d : Decimal)
  | str (s : String)
  | date (d : Date)
  | datetime (t : DateTime)
  | time (t : TimeOfDay)
  | uuid (u : Uuid)
deriving DecidableEq, Repr

/-- A piece of data. -/
inductive Value where
  | scalar (s : Scalar)
  | bytes (bs : List UInt8)
  | list (items : List Value)
  | tuple (items : List Value)
  | set (items : List Value)
  | dict (fields : List (String × Value))
  | record (fields : List (String × Value))

/-- The word for a scalar's type. -/
def Scalar.typeName : Scalar → String
  | .null => "NoneType"
  | .bool _ => "bool"
  | .int _ => "int"
  | .float _ => "float"
  | .decimal _ => "Decimal"
  | .str _ => "str"
  | .date _ => "date"
  | .datetime _ => "datetime"
  | .time _ => "time"
  | .uuid _ => "UUID"

namespace Value

@[match_pattern] abbrev null : Value := .scalar .null
@[match_pattern] abbrev bool (b : Bool) : Value := .scalar (.bool b)
@[match_pattern] abbrev int (i : Int) : Value := .scalar (.int i)
@[match_pattern] abbrev str (s : String) : Value := .scalar (.str s)

instance : Inhabited Value := ⟨.null⟩

/-- The word for a value's type. -/
def typeName : Value → String
  | .scalar s => s.typeName
  | .bytes _ => "bytes"
  | .list _ => "list"
  | .tuple _ => "tuple"
  | .set _ => "set"
  | .dict _ => "dict"
  | .record _ => "Record"

/-- The word for a value's type, with the module that the type belongs to. -/
def qualifiedTypeName : Value → String
  | .scalar (.decimal _) => "decimal.Decimal"
  | .scalar (.date _) => "datetime.date"
  | .scalar (.datetime _) => "datetime.datetime"
  | .scalar (.time _) => "datetime.time"
  | v => v.typeName

/-- The scalar that a value is, if it is one. -/
def scalar? : Value → Option Scalar
  | .scalar s => some s
  | _ => none

/-- The text that a value is, if it is one. -/
def text? : Value → Option String
  | .str s => some s
  | _ => none

/-- Whether a value is absent. -/
def isNull : Value → Bool
  | .null => true
  | _ => false

/-- A field of a dictionary or an attribute of a record; nothing else has fields. -/
def field? : Value → String → Option Value
  | .dict fields, name | .record fields, name => fields.lookup name
  | _, _ => none

/-- A field, or null where it is missing. -/
def field (v : Value) (name : String) : Value := (v.field? name).getD .null

/-- Whether a value has fields that can be walked into. -/
def isRecord : Value → Bool
  | .dict _ | .record _ | .scalar (.uuid _) => true
  | _ => false

/-- The rows that a value stands for: a list or a tuple is a sequence of rows, and nothing
    else is taken for one. -/
def rows? : Value → Option (List Value)
  | .list items | .tuple items => some items
  | _ => none

/-- A dictionary with one field set; other values have no such copy. -/
def withField? (v : Value) (name : String) (x : Value) : Option Value :=
  match v with
  | .dict fields => some (.dict (Keyed.setKey name x fields))
  | _ => none

/-- The elements of a set in the order in which they are taken out: numbers ascend, other
    elements keep the order in which they were put in. -/
def setOrder (items : List Value) : List Value :=
  items.mergeSort fun a b =>
    match a, b with
    | .int i, .int j => i ≤ j
    | _, _ => true

end Value

end Clearance
