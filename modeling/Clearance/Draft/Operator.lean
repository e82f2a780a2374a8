/-
  The operators, which build the nodes of a rule.

  An operator finishes the references among its arguments from left to right and checks
  them; the first argument that will not do decides the error.  An actor value is admitted
  in a value position only if it is a scalar.

  * `Operator.compare`, `between`, `inArray`, `nullCheck`, `textMatch`, `tenantScoped`,
    `belongsToTenant` and `search` build tests of a column;
  * `Operator.openTable` and `Operator.related` build a test of related rows: the first
    names the table and the stage of a capture on its rows, the second checks that the
    predicate is tied to something outside the table;
  * `Operator.negation`, `junction`, `literal` and `function` build the other nodes.
-/
import Clearance.Draft.Argument
import Clearance.Rule.Coercion
import Clearance.Pattern.Search
import Clearance.Rule.Walk

namespace Clearance.Operator

variable {F : Type}

/-! ## Arguments -/

/-- An actor value that is a scalar. -/
def scalarActor (a : ActorRef) (role : String) : Result ActorRef :=
  match a.value with
  | .scalar _ => .ok a
  | v => .error (.actorNotScalar a.source role v.typeName)

/-- An argument in a value position. -/
def operand (a : Argument F) (role : String) : Result Operand :=
  match a with
  | .column p | .pathRef p => .ok (.path p)
  | .actor ref | .actorRef ref => do return .actor (← scalarActor ref role)
  | .value (.scalar s) => .ok (.scalar s)
  | a => .error (.unsupportedOperand role a.typeName)

/-- A text argument. -/
def text (v : Value) (role : String) : Result String :=
  match v with
  | .str s => .ok s
  | v => .error (.notText role v.typeName)

/-- The constants among which a column is looked for. -/
def scalars : List Value → Result (List Scalar)
  | [] => .ok []
  | .scalar s :: rest => do return s :: (← scalars rest)
  | v :: _ => .error (.itemNotScalar v.typeName)

/-- The items of a sequence or a set; texts and byte strings do not count. -/
def items : Value → Result (List Value)
  | .list vs | .tuple vs | .set vs => .ok vs
  | v => .error (.notSequence v.typeName)

/-- The flags that letters denote. -/
def flags (letters : String) : Result (List PatternFlag) :=
  let unknown := letters.toList.filter fun c => (PatternFlag.ofLetter? c).isNone
  if unknown.isEmpty then .ok (letters.toList.filterMap PatternFlag.ofLetter?)
  else .error (.unsupportedFlags ((unknown.mergeSort fun a b => a ≤ b).eraseReps))

/-! ## Tests of a column -/

/-- Compares a column with an operand. -/
def compare (op : CompareOp) (left right : Argument F) : Result (Expr F) := do
  let path ← left.path
  return .comparison op path (← operand right "right operand")

/-- Tests that a column lies between two operands. -/
def between (path low high : Argument F) : Result (Expr F) := do
  let path ← path.path
  let min ← operand low "min"
  return .between path min (← operand high "max")

/-- Tests that a column is one of some constants, given as a sequence or as an actor value
    that holds one. -/
def inArray (path values : Argument F) : Result (Expr F) := do
  let vs ← match values with
    | .actor a | .actorRef a => items a.value
    | .value v => items v
    | a => .error (.notSequence a.typeName)
  let constants ← scalars vs
  return .inArray (← path.path) constants

/-- Tests whether a column holds a value. -/
def nullCheck (test : NullTest) (path : Argument F) : Result (Expr F) := do
  return .nullCheck test (← path.path)

/-- The name of the argument of a text test. -/
def textRole : TextTest → String
  | .startsWith => "prefix"
  | .endsWith => "suffix"
  | .contains => "text"

/-- Tests a column against a text. -/
def textMatch (test : TextTest) (path : Argument F) (v : Value) : Result (Expr F) := do
  let path ← path.path
  return .textMatch test path (← text v (textRole test))

/-- Tests a column against a pattern, which has to be a valid one. -/
def search [CharacterNames] (path : Argument F) (pattern letters : Value) : Result (Expr F) := do
  let path ← path.path
  let pattern ← text pattern "pattern"
  let letters ← text letters "flags"
  let flags ← flags letters
  match Pattern.compileWith pattern flags with
  | .ok _ => return .matches path pattern flags
  | .error e =>
    match Error.patternFaultName e with
    | "error" => throw (.badPattern pattern e)
    | _ => throw (.patternFault pattern e)

/-- Tests that a column equals the actor's field of the same name. -/
def tenantScoped (path : Argument F) : Result (Expr F) := do
  return .tenantScoped (← path.path)

/-- Tests that a column equals an actor value. -/
def belongsToTenant (actorValue path : Argument F) : Result (Expr F) := do
  let ref ← match actorValue with
    | .actor a | .actorRef a => pure a
    | a => throw (.notActorValue a.typeName)
  let ref ← scalarActor ref "actor value"
  return .belongsToTenant ref (← path.path)

/-! ## Related rows -/

/-- The name of a table, and the table with its columns taken from the row at hand. -/
def openTable (kind : RelatedKind) (a : Argument F) : Result (String × Argument F) :=
  match a with
  | .table name _ schema => .ok (name, .table name true schema)
  | .tableRef name => .ok (name, .table name true none)
  | a => .error (.notTable kind.kind a.display)

/-- Whether a predicate on the rows of a table names a column outside the tables that it
    opens itself. -/
def isCorrelated (table : String) (predicate : Expr F) : Bool :=
  let inner := table :: predicate.relatedTables
  predicate.paths.any fun p => !inner.contains p.table

/-- The number of rows that is asked for. -/
def rowCount (kind : RelatedKind) (v : Value) : Result Nat :=
  match v with
  | .int (.ofNat n) => .ok n
  | _ => .error (.malformed (kind.kind.name ++ " requires a non-negative int min_count"))

/-- Tests how many rows of a table satisfy a predicate, which has to be correlated. -/
def related (kind : RelatedKind) (table : String) (predicate : Rule F) (minCount : Value) :
    Result (Expr F) := do
  let predicate ← predicate.toExpr
  if isCorrelated table predicate then
    return .related kind table predicate (← rowCount kind minCount)
  else throw (.uncorrelated kind.kind table predicate.hasFunction)

/-! ## Other nodes -/

/-- Negates a rule. -/
def negation (r : Rule F) : Result (Expr F) := do return .not (← r.toExpr)

/-- Joins rules. -/
def junction (kind : Junction) (rules : List (Rule F)) : Result (Expr F) := do
  return .junction kind (← rules.mapM Rule.toExpr)

/-- A constant. -/
def literal (v : Value) : Result (Expr F) :=
  match v with
  | .bool b => .ok (.literal b)
  | _ => .error (.malformed "literal requires a bool value")

/-- A function node; without a description it goes by the function's own name. -/
def function (r : Rule F) (description : String) : Result (Expr F) :=
  match r with
  | .function fn name => .ok (.function fn (if description.isEmpty then name else description))
  | _ => .error (.malformed "function requires a callable")

end Clearance.Operator
