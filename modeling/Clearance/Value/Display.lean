/-
  The text of a value inside a message.

  * `Scalar.display` and `Value.display` show a value the way it would be written in a
    program: texts in quotes, decimals, times and identifiers as constructor calls,
    sequences in their brackets.
-/
import Clearance.Value.Basic
import Clearance.Text.Quoted

namespace Clearance

/-- The text of a scalar in a message. -/
def Scalar.display : Scalar → String
  | .null => "None"
  | .bool b => if b then "True" else "False"
  | .int i => toString i
  | .float x => x.text
  | .decimal d => "Decimal('" ++ d.text ++ "')"
  | .str s => Text.quoted s
  | .date d => d.display
  | .datetime t => t.display
  | .time t => t.display
  | .uuid u => "UUID('" ++ u.text ++ "')"

/-- Texts between a pair of brackets. -/
def bracketed (opening : String) (texts : List String) (closing : String) : String :=
  opening ++ ", ".intercalate texts ++ closing

/-- Texts as a tuple; a single one keeps a comma. -/
def tupleText : List String → String
  | [only] => "(" ++ only ++ ",)"
  | texts => bracketed "(" texts ")"

namespace Value

mutual

/-- The text of a value in a message. -/
def display : Value → String
  | .scalar s => s.display
  | .bytes bs => Text.quotedBytes bs
  | .list items => bracketed "[" (displayAll items) "]"
  | .tuple items => tupleText (displayAll items)
  | .set items =>
    match items with
    | [] => "set()"
    | items => bracketed "\x7b" (displayAll items) "\x7d"
  | .dict fields => bracketed "\x7b" (displayFields ": " Text.quoted fields) "\x7d"
  | .record fields => bracketed "Record(" (displayFields "=" id fields) ")"

/-- The texts of values. -/
def displayAll : List Value → List String
  | [] => []
  | v :: rest => v.display :: displayAll rest

/-- The texts of fields, with the mark between a name and its value. -/
def displayFields (mark : String) (name : String → String) : List (String × Value) → List String
  | [] => []
  | (key, v) :: rest => (name key ++ mark ++ v.display) :: displayFields mark name rest

end

end Value

end Clearance
