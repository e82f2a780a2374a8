/-
  Nodes built by hand, field by field.

  A node checks its own shape: references have to be finished ones, a kind has to belong to
  the shape, and the parts have to be expressions.  Unlike the operators it finishes no
  capture and takes no truth value for an expression.

  * `Shape` names the shapes of nodes, `Shape.make` builds a node from its fields.
-/
import Clearance.Draft.Operator

namespace Clearance

/-- The shape of a node. -/
inductive Shape where
  | literal | comparison | inArray | nullCheck | textMatch | between | matches | related
  | tenantScoped | belongsToTenant | not | junction | function
deriving DecidableEq, Repr

/-- A field of a node to be built. -/
inductive Field (F : Type) where
  | kind (k : Kind)
  | one (a : Argument F)
  | tuple (as : List (Argument F))

/-- The fields of a node to be built, by name. -/
abbrev Fields (F : Type) := List (String × Field F)

namespace Shape

/-- All shapes. -/
def all : List Shape :=
  [literal, comparison, inArray, nullCheck, textMatch, between, .matches, related, tenantScoped,
   belongsToTenant, .not, junction, function]

/-- The name of a shape. -/
def name : Shape → String
  | literal => "Literal"
  | comparison => "Comparison"
  | inArray => "InArray"
  | nullCheck => "NullCheck"
  | textMatch => "TextMatch"
  | between => "Between"
  | .matches => "Matches"
  | related => "Related"
  | tenantScoped => "TenantScoped"
  | belongsToTenant => "BelongsToTenant"
  | .not => "Not"
  | junction => "Junction"
  | function => "Function"

/-- The shape of a name. -/
def ofName? (s : String) : Option Shape := all.find? fun shape => shape.name == s

end Shape

namespace Fields

variable {F : Type}

/-- The argument in a field; a field that is left out is null. -/
def argument (fields : Fields F) (name : String) : Argument F :=
  match fields.lookup name with
  | some (.one a) => a
  | _ => .value .null

/-- The kind in a field, a literal if it is left out. -/
def kind (fields : Fields F) : Kind :=
  match fields.lookup "kind" with
  | some (.kind k) => k
  | _ => .literal

/-- The arguments in a field that holds a tuple. -/
def tuple? (fields : Fields F) (name : String) : Option (List (Argument F)) :=
  match fields.lookup name with
  | some (.tuple as) => some as
  | some (.one (.value (.tuple vs))) => some (vs.map Argument.value)
  | _ => none

/-- Whether a field is given. -/
def has (fields : Fields F) (name : String) : Bool := (fields.lookup name).isSome

/-- A field that has to be a column. -/
def path (fields : Fields F) (kind : Kind) (name role : String) : Result PathRef :=
  match fields.argument name with
  | .pathRef p => .ok p
  | a => .error (.pathRequired kind role a.typeName)

/-- A field that has to be an operand. -/
def operand (fields : Fields F) (kind : Kind) (name role : String) : Result Operand :=
  match (fields.argument name).operand? with
  | some x => .ok x
  | none => .error (.operandRequired kind role (fields.argument name).typeName)

/-- A field that has to be a text. -/
def text (fields : Fields F) (name requirement : String) : Result String :=
  match fields.argument name with
  | .value (.str s) => .ok s
  | _ => .error (.malformed requirement)

end Fields

namespace Shape

variable {F : Type}

/-- The scalar that an argument is, if it is one. -/
def scalar? : Argument F → Option Scalar
  | .value v => v.scalar?
  | _ => none

/-- The expression that an argument is, if it is one. -/
def expr? : Argument F → Option (Expr F)
  | .rule (.expr e) => some e
  | _ => none

/-- A kind of a family, or the complaint that the kind is of another one. -/
def familyMember {α : Type} (fields : Fields F) (member? : Kind → Option α) (family : String) :
    Result α :=
  match member? fields.kind with
  | some x => .ok x
  | none => .error (.wrongKind fields.kind family)

/-- The table in a field. -/
def tableField (fields : Fields F) (kind : Kind) : Result String :=
  match fields.argument "table" with
  | .tableRef name => .ok name
  | _ => .error (.malformed (kind.name ++ " requires a table reference"))

/-- The expression in a field. -/
def exprField (fields : Fields F) (name requirement : String) : Result (Expr F) :=
  match expr? (fields.argument name) with
  | some e => .ok e
  | none => .error (.malformed requirement)

/-- The items of a field that has to be a tuple of things of one sort. -/
def tupleField {α : Type} (fields : Fields F) (name : String) (item? : Argument F → Option α)
    (requirement : String) : Result (List α) :=
  match (fields.tuple? name).bind fun as => as.mapM item? with
  | some items => .ok items
  | none => .error (.malformed requirement)

/-- Builds a node. -/
def make (shape : Shape) (fields : Fields F) : Result (Expr F) :=
  match shape with
  | literal =>
    match fields.argument "value" with
    | .value v => Operator.literal v
    | _ => Operator.literal .null
  | comparison => do
    let op ← familyMember fields Kind.compareOp? "comparison"
    let left ← fields.path op.kind "left" "left operand"
    return .comparison op left (← fields.operand op.kind "right" "right operand")
  | inArray => do
    let path ← fields.path .inArray "path" "path"
    return .inArray path
      (← tupleField fields "values" scalar? "inArray requires a tuple of primitive values")
  | nullCheck => do
    let test ← familyMember fields Kind.nullTest? "null-check"
    return .nullCheck test (← fields.path test.kind "path" "path")
  | textMatch => do
    let test ← familyMember fields Kind.textTest? "text-match"
    let path ← fields.path test.kind "path" "path"
    let requirement := test.kind.name ++ " requires a str argument"
    return .textMatch test path (← fields.text "text" requirement)
  | between => do
    let path ← fields.path .between "path" "path"
    let min ← fields.operand .between "min" "min"
    return .between path min (← fields.operand .between "max" "max")
  | .matches => do
    let requirement := "matches requires str pattern and flags"
    let path ← fields.path .matches "path" "path"
    let pattern ← fields.text "pattern" requirement
    let letters ← if fields.has "flags" then fields.text "flags" requirement else pure ""
    return .matches path pattern (← Operator.flags letters)
  | related => do
    let kind ← familyMember fields Kind.relatedKind? "related-table"
    let table ← tableField fields kind.kind
    let predicate ←
      exprField fields "predicate" (kind.kind.name ++ " requires an expression predicate")
    let minCount : Value :=
      if fields.has "min_count" then
        match fields.argument "min_count" with
        | .value v => v
        | _ => .null
      else .int 1
    return .related kind table predicate (← Operator.rowCount kind minCount)
  | tenantScoped => return .tenantScoped (← fields.path .tenantScoped "path" "path")
  | belongsToTenant => do
    let ref ← match fields.argument "actor_value" with
      | .actorRef a => pure a
      | _ => throw (.malformed "belongsToTenant requires an actor value")
    return .belongsToTenant ref (← fields.path .belongsToTenant "subject_path" "subject path")
  | .not => return .not (← exprField fields "expr" "not requires an expression")
  | junction => do
    let kind ← familyMember fields Kind.junction? "junction"
    if !fields.has "rules" then return .junction kind []
    return .junction kind
      (← tupleField fields "rules" expr? (kind.kind.name ++ " requires a tuple of expressions"))
  | function =>
    match fields.argument "fn" with
    | .rule (.function fn _) =>
      let description := match fields.argument "description" with
        | .value (.str s) => s
        | _ => ""
      .ok (.function fn description)
    | _ => .error (.malformed "function requires a callable")

end Shape

end Clearance
