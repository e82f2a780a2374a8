/-
  What a rule writer passes to an operator.

  Paths and actor values are captured by naming fields one after the other.  On the subject
  the first name is a table and the second a column; on the actor every name reads a field
  right away.  An `Argument` is a stage of such a capture, a finished reference, or a rule,
  of which plain values are the most common.  The stages and the references have attributes of
  their own, which come before any field of the same name.

  * `Argument.capture` names one more field, `Argument.captures` several;
  * `Argument.access` reads an attribute of the argument's own, or else names a field,
    `Argument.chain` does so several times, and `Argument.invoke` calls a method;
  * `Argument.path`, `Argument.column` and `Argument.operand` are the finished references
    that an argument stands for, or the reason why it stands for none;
  * `Argument.typeName` and `Argument.display` are the texts in messages.
-/
import Clearance.Draft.Schema
import Clearance.Rule.Display

namespace Clearance

/-- An argument of an operator. -/
inductive Argument (F : Type) where
  /-- The subject, on which a table is to be named. -/
  | subject (schema : Option Schema)
  /-- A table, on which a column is to be named. -/
  | table (name : String) (isScoped : Bool) (schema : Option Schema)
  /-- A column named on a table. -/
  | column (p : PathRef)
  /-- A record of the actor, on which a field is to be named. -/
  | actor (a : ActorRef)
  | pathRef (p : PathRef)
  | tableRef (name : String)
  | actorRef (a : ActorRef)
  | rule (r : Rule F)
  /-- A method of a stage with its text.  It takes nothing, so what it returns is settled. -/
  | method (text : String) (returned : Argument F)

/-- A finished reference to a column or a table. -/
inductive Target where
  | path (p : PathRef)
  | table (name : String)
deriving DecidableEq, Repr

namespace Argument

variable {F : Type}

@[match_pattern] abbrev value (v : Value) : Argument F := .rule (.value v)

/-! ## Texts -/

/-- The word for the type of an argument. -/
def typeName : Argument F → String
  | subject _ => "SubjectProxy"
  | table _ _ _ => "TableProxy"
  | column _ => "PathProxy"
  | actor _ => "ActorProxy"
  | pathRef p => p.typeName
  | tableRef _ => "TableRef"
  | actorRef _ => "ActorRef"
  | rule r => r.typeName
  | method _ _ => "method"

/-- The word for the type of an argument, with the module that a type of values is from. -/
def qualifiedTypeName : Argument F → String
  | value v => v.qualifiedTypeName
  | a => a.typeName

/-- The text of an argument in a message. -/
def display : Argument F → String
  | subject _ => "SubjectProxy()"
  | table name _ _ => "TableProxy(" ++ name ++ ")"
  | column p => "PathProxy(" ++ p.table ++ "." ++ p.column ++ ")"
  | actor a => "ActorProxy(" ++ a.source ++ ")"
  | pathRef p => p.display
  | tableRef name => "TableRef(name=" ++ Text.quoted name ++ ")"
  | actorRef a => a.display
  | rule (.expr e) => e.display
  | rule (.function _ name) => "<function " ++ name ++ ">"
  | rule (.value v) => v.display
  | method text _ => text

/-! ## Capture -/

/-- Whether a name is reserved on the stages of a capture. -/
def isReserved (name : String) : Bool := "__".toList.isPrefixOf name.toList

/-- A field of the actor: records can be walked into, other values are captured. -/
def actorField (a : ActorRef) (name : String) : Result (Argument F) :=
  let source := a.source ++ "." ++ name
  match a.value.field? name with
  | none => .error (.missingField source)
  | some v =>
    if v.scalar?.isNone && v.isRecord then .ok (actor ⟨v, source⟩)
    else .ok (actorRef ⟨v, source⟩)

/-- Names one more field. -/
def capture (a : Argument F) (name : String) : Result (Argument F) :=
  match a with
  | subject schema =>
    if isReserved name then .error (.reservedAttribute name)
    else do
      checkTable schema name
      return table name false schema
  | table t isScoped schema =>
    if isReserved name then .error (.reservedAttribute name)
    else do
      checkColumn schema t name
      return column ⟨isScoped, t, name⟩
  | column p =>
    if isReserved name then .error (.reservedAttribute name)
    else .error (.pathTooDeep p.table p.column name)
  | actor ref =>
    if isReserved name then .error (.reservedAttribute name) else actorField ref name
  | value v =>
    match v with
    | .record fields =>
      match fields.lookup name with
      | some w => .ok (value w)
      | none => .error (.noAttribute v.qualifiedTypeName name)
    | v => .error (.noAttribute v.qualifiedTypeName name)
  | method _ _ => .error (.noAttribute "function" name)
  | a => .error (.noAttribute a.typeName name)

/-- Names several fields, one on the other. -/
def captures (a : Argument F) : List String → Result (Argument F)
  | [] => .ok a
  | name :: rest => do (← a.capture name).captures rest

/-! ## Attributes -/

/-- A schema as a value: nothing, or a dictionary from tables to sets of columns. -/
def ofSchema (schema : Option Schema) : Argument F :=
  match schema with
  | none => value .null
  | some tables => value (.dict (tables.map fun t =>
      (t.1, t.2.elim .null fun columns => .set (columns.eraseDups.map .str))))

/-- A method of a stage of a capture. -/
def bound (a : Argument F) (name : String) (returned : Argument F) : String × Argument F :=
  (name, method ("<bound method " ++ a.typeName ++ "." ++ name ++ " of " ++ a.display ++ ">")
    returned)

/-- The attributes that an argument has of its own: what a stage of a capture is made of, its
    methods, and the parts of a reference. -/
def attributes (a : Argument F) : List (String × Argument F) :=
  match a with
  | subject schema => [("_schema", ofSchema schema)]
  | table name isScoped schema =>
    [("_table", value (.str name)), ("_scoped", value (.bool isScoped)),
     ("_schema", ofSchema schema), a.bound "to_ref" (tableRef name),
     a.bound "scoped" (table name true schema)]
  | column p =>
    [("_table", value (.str p.table)), ("_column", value (.str p.column)),
     ("_scoped", value (.bool p.isScoped)), a.bound "to_ref" (pathRef p)]
  | actor ref =>
    [("_value", value ref.value), ("_source", value (.str ref.source)),
     a.bound "to_ref" (actorRef ref), a.bound "unwrap" (value ref.value)]
  | pathRef p => [("table", value (.str p.table)), ("column", value (.str p.column))]
  | tableRef name => [("name", value (.str name))]
  | actorRef ref => [("value", value ref.value), ("source", value (.str ref.source))]
  | rule _ | method _ _ => []

/-- Whether an argument has an attribute of its own under a name. -/
def hasOwn (a : Argument F) (name : String) : Bool := (a.attributes.lookup name).isSome

/-- Reads an attribute: an argument's own come before the fields that are named on it. -/
def access (a : Argument F) (name : String) : Result (Argument F) :=
  match a.attributes.lookup name with
  | some b => .ok b
  | none => a.capture name

/-- Reads several attributes, one of the other. -/
def chain (a : Argument F) : List String → Result (Argument F)
  | [] => .ok a
  | name :: rest => do (← a.access name).chain rest

/-- Calls a method. -/
def invoke (a : Argument F) (name : String) : Result (Argument F) := do
  match ← a.access name with
  | method _ returned => .ok returned
  | b => .error (.notCallable b.qualifiedTypeName)

/-! ## Sources -/

/-- The subject, under a schema. -/
def ofSubject (source : SchemaSource) : Result (Argument F) := do
  return subject (← source.schema?)

/-- A related table whose columns are those of the row at hand, under a schema. -/
def ofScoped (name : String) (source : SchemaSource) : Result (Argument F) := do
  let schema ← source.schema?
  checkTable schema name
  return table name true schema

/-- The actor. -/
def ofActor (v : Value) : Argument F := actor ⟨v, "actor"⟩

/-- An argument as the actor; what is a record of the actor already stays as it is. -/
def asActor : Argument F → Argument F
  | value v => ofActor v
  | a => a

/-- A table with its columns taken from the row at hand. -/
def asScoped (a : Argument F) : Result (Argument F) := a.invoke "scoped"

/-- A field of what a function was called with, null where it is missing.  The stages of a
    capture have all fields that can be named on them. -/
def field (a : Argument F) (name : String) : Result (Argument F) :=
  match a with
  | value v => .ok (value (v.field name))
  | a =>
    match a.access name with
    | .error (.reservedAttribute _) | .error (.noAttribute _ _) => .ok (value .null)
    | outcome => outcome

/-- Whether an argument is a value equal to a given one. -/
def isValue (a : Argument F) (v : Value) : Result Bool :=
  match a with
  | value w => Result.ofComparison (w.equal v)
  | _ => .ok false

/-! ## Finished references -/

/-- The column or table that an argument refers to. -/
def target : Argument F → Result Target
  | pathRef p | column p => .ok (.path p)
  | tableRef name | table name _ _ => .ok (.table name)
  | value (.str s) => .error (.stringPath s)
  | a => .error (.notPath a.display)

/-- The column that an argument refers to. -/
def path (a : Argument F) : Result PathRef := do
  match ← a.target with
  | .path p => .ok p
  | .table name => .error (.tableAsColumn name)

/-- The operand that an argument stands for. -/
def operand : Argument F → Result Operand
  | pathRef p | column p => .ok (.path p)
  | actorRef a | actor a => .ok (.actor a)
  | value (.scalar s) => .ok (.scalar s)
  | a@(table _ _ _) => .error (.tableAsValue a.display)
  | a@(tableRef _) => .error (.tableAsValue a.display)
  | a => .error (.notValue a.display a.typeName)

/-- The name of the table that an argument refers to. -/
def tableName (a : Argument F) : Result String := do
  match ← a.target with
  | .table name => .ok name
  | .path p => .error (.columnAsTable p.text)

/-- Whether an argument is a scalar. -/
def isScalar : Argument F → Bool
  | value (.scalar _) => true
  | _ => false

/-- Whether an argument is a finished reference to a column. -/
def isPathRef : Argument F → Bool
  | pathRef _ => true
  | _ => false

/-- The operand that an argument is as it stands, without a capture to finish. -/
def operand? : Argument F → Option Operand
  | pathRef p => some (.path p)
  | actorRef a => some (.actor a)
  | value (.scalar s) => some (.scalar s)
  | _ => none

end Argument

end Clearance
