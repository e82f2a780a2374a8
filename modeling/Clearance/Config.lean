/-
  The configuration that deciding and compiling share.

  * `Config` has a default for every field;
  * `Config.ofFields` reads a configuration from fields, of which the unknown ones are
    ignored; it reports a fault for every field that will not do, in the order in which the
    fields are declared.
-/
import Clearance.Value.Basic

namespace Clearance

/-- How patterns are compiled. -/
inductive RegexStrategy where
  /-- As `LIKE` where that is possible, natively otherwise. -/
  | auto
  /-- As `LIKE` or not at all. -/
  | like
  /-- By the regular expressions of the database. -/
  | native
deriving DecidableEq, Repr

/-- The name of a strategy. -/
def RegexStrategy.name : RegexStrategy → String
  | auto => "auto"
  | like => "like"
  | native => "native"

/-- The strategy of a name. -/
def RegexStrategy.ofName? : String → Option RegexStrategy
  | "auto" => some auto
  | "like" => some like
  | "native" => some native
  | _ => none

/-- A configuration. -/
structure Config where
  /-- How many functions may be expanded inside one another. -/
  maxFunctionDepth : Nat := 16
  /-- How many nodes one run may visit, if that is limited. -/
  maxExpressionNodes : Option Nat := none
  /-- The part of the actor that is searched first for a tenant. -/
  tenantNamespace : String := "user"
  regexStrategy : RegexStrategy := .auto
  /-- Whether decisions are logged. -/
  logDecisions : Bool := false
deriving DecidableEq, Repr

/-- What is wrong with a field of a configuration. -/
inductive FieldProblem where
  | notInteger
  | tooSmall
  | notText
  | emptyText
  | notStrategy
  | notBool
  /-- The configuration is not to be changed. -/
  | frozen
deriving DecidableEq, Repr

/-- The code of a problem. -/
def FieldProblem.code : FieldProblem → String
  | notInteger => "int_type"
  | tooSmall => "greater_than_equal"
  | notText => "string_type"
  | emptyText => "string_too_short"
  | notStrategy => "literal_error"
  | notBool => "bool_type"
  | frozen => "frozen_instance"

/-- The wording of a problem. -/
def FieldProblem.message : FieldProblem → String
  | notInteger => "Input should be a valid integer"
  | tooSmall => "Input should be greater than or equal to 1"
  | notText => "Input should be a valid string"
  | emptyText => "String should have at least 1 character"
  | notStrategy => "Input should be 'auto', 'like' or 'native'"
  | notBool => "Input should be a valid boolean"
  | frozen => "Instance is frozen"

/-- A fault in a field of a configuration. -/
structure FieldFault where
  field : String
  problem : FieldProblem
deriving DecidableEq, Repr

namespace Config

/-- A count, which is at least one. -/
def readCount : Value → Except FieldProblem Nat
  | .int (.ofNat (n + 1)) => .ok (n + 1)
  | .int _ => .error .tooSmall
  | _ => .error .notInteger

/-- A count or nothing. -/
def readLimit : Value → Except FieldProblem (Option Nat)
  | .null => .ok none
  | v => (readCount v).map some

/-- A text that is not empty. -/
def readName : Value → Except FieldProblem String
  | .str s => if s.isEmpty then .error .emptyText else .ok s
  | _ => .error .notText

/-- A strategy. -/
def readStrategy (v : Value) : Except FieldProblem RegexStrategy :=
  match v.text?.bind RegexStrategy.ofName? with
  | some strategy => .ok strategy
  | none => .error .notStrategy

/-- A truth value. -/
def readBool : Value → Except FieldProblem Bool
  | .bool b => .ok b
  | _ => .error .notBool

/-- Reads a field, with a default where it is missing. -/
def readField {α : Type} (fields : List (String × Value)) (name : String) (default : α)
    (read : Value → Except FieldProblem α) : Except FieldFault α :=
  match fields.lookup name with
  | none => .ok default
  | some v => (read v).mapError fun problem => ⟨name, problem⟩

/-- The fault of an outcome, if it is one. -/
def fault? {α : Type} : Except FieldFault α → Option FieldFault
  | .ok _ => none
  | .error fault => some fault

/-- Reads a configuration. -/
def ofFields (fields : List (String × Value)) : Except (List FieldFault) Config :=
  let depth := readField fields "max_function_depth" 16 readCount
  let nodes := readField fields "max_expression_nodes" none readLimit
  let space := readField fields "tenant_actor_namespace" "user" readName
  let strategy := readField fields "regex_strategy" .auto readStrategy
  let logs := readField fields "log_decisions" false readBool
  match depth, nodes, space, strategy, logs with
  | .ok depth, .ok nodes, .ok space, .ok strategy, .ok logs =>
    .ok ⟨depth, nodes, space, strategy, logs⟩
  | _, _, _, _, _ =>
    .error ([fault? depth, fault? nodes, fault? space, fault? strategy, fault? logs].filterMap id)

/-- A configuration as fields. -/
def fields (c : Config) : List (String × Value) :=
  [("max_function_depth", .int c.maxFunctionDepth),
   ("max_expression_nodes", (c.maxExpressionNodes.map fun n => Value.int n).getD .null),
   ("tenant_actor_namespace", .str c.tenantNamespace),
   ("regex_strategy", .str c.regexStrategy.name),
   ("log_decisions", .bool c.logDecisions)]

/-- Changes a field, which no configuration admits. -/
def set (_ : Config) (name : String) : Except (List FieldFault) Config :=
  .error [⟨name, .frozen⟩]

end Config

end Clearance
