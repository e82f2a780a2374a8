/-
  What a node of a rule refers to: columns, values of the actor, constants.

  A path names a column, of the subject or, if scoped, of the row at hand of a related
  table.  An actor value has been read off the actor already; its source is kept to name it
  in texts, where the value itself is never shown.

  * `PathRef.text` and `Operand.describe` are the texts in descriptions of rules;
  * `PathRef.display` and `ActorRef.display` are the texts in messages about arguments.
-/
import Clearance.Value.Display
import Clearance.Value.Order

namespace Clearance

/-- A column of the subject, or of a row of a related table. -/
structure PathRef where
  isScoped : Bool
  table : String
  column : String
deriving DecidableEq, Repr

/-- A value captured from the actor, with the access path it was read from. -/
structure ActorRef where
  value : Value
  source : String

/-- What may stand in the value position of a node. -/
inductive Operand where
  | path (p : PathRef)
  | actor (a : ActorRef)
  | scalar (s : Scalar)

namespace PathRef

/-- The text of a path; a star marks the row of a related table. -/
def text (p : PathRef) : String :=
  if p.isScoped then p.table ++ "[*]." ++ p.column else p.table ++ "." ++ p.column

/-- The word for the type of a reference. -/
def typeName (p : PathRef) : String := if p.isScoped then "ScopedSubjectRef" else "SubjectRef"

/-- The text of a reference in a message. -/
def display (p : PathRef) : String :=
  p.typeName ++ "(table=" ++ Text.quoted p.table ++ ", column=" ++ Text.quoted p.column ++ ")"

end PathRef

/-- The text of an actor value in a message. -/
def ActorRef.display (a : ActorRef) : String :=
  "ActorRef(value=" ++ a.value.display ++ ", source=" ++ Text.quoted a.source ++ ")"

/-- Whether two actor values are equal; where they were read from does not count. -/
def ActorRef.equal (a b : ActorRef) : Except InvalidOperation Bool :=
  if a.value.identical b.value then .ok true else a.value.equal b.value

namespace Operand

/-- The text of an operand in the description of a rule: paths and actor values by name,
    constants by value. -/
def describe : Operand → String
  | .path p => p.text
  | .actor a => a.source
  | .scalar s => s.display

/-- The text of an operand in a message. -/
def display : Operand → String
  | .path p => p.display
  | .actor a => a.display
  | .scalar s => s.display

/-- The path that an operand is, if it is one. -/
def path? : Operand → Option PathRef
  | .path p => some p
  | _ => none

/-- Whether two operands are equal. -/
def equal : Operand → Operand → Except InvalidOperation Bool
  | .path p, .path q => .ok (p = q : Bool)
  | .actor a, .actor b => a.equal b
  | .scalar s, .scalar t => if s.identical t then .ok true else s.equal t
  | _, _ => .ok false

end Operand

end Clearance
