/-
  The text of a node in a message about an argument: its shape, with the fields by name.

  * `Expr.display` is this text.
-/
import Clearance.Rule.Basic

namespace Clearance.Expr

variable {F : Type}

/-- A field of a node with its text. -/
def fieldText (name text : String) : String := name ++ "=" ++ text

/-- The field that holds the kind of a node. -/
def kindField (kind : Kind) : String := fieldText "kind" kind.display

mutual

/-- The fields of a node, with their names. -/
def displayFields : Expr F → List String
  | literal value =>
    [fieldText "value" (Scalar.bool value).display, kindField .literal]
  | comparison op left right =>
    [kindField op.kind, fieldText "left" left.display, fieldText "right" right.display]
  | inArray path values =>
    [fieldText "path" path.display, fieldText "values" (tupleText (values.map Scalar.display)),
     kindField .inArray]
  | nullCheck test path => [kindField test.kind, fieldText "path" path.display]
  | textMatch test path text =>
    [kindField test.kind, fieldText "path" path.display, fieldText "text" (Text.quoted text)]
  | between path min max =>
    [fieldText "path" path.display, fieldText "min" min.display, fieldText "max" max.display,
     kindField .between]
  | .matches path pattern flags =>
    [fieldText "path" path.display, fieldText "pattern" (Text.quoted pattern),
     fieldText "flags" (Text.quoted (flagText flags)), kindField .matches]
  | related kind table predicate minCount =>
    [kindField kind.kind, fieldText "table" ("TableRef(name=" ++ Text.quoted table ++ ")"),
     fieldText "predicate" (bracketed (predicate.className ++ "(") (displayFields predicate) ")"),
     fieldText "min_count" (toString minCount)]
  | tenantScoped path => [fieldText "path" path.display, kindField .tenantScoped]
  | belongsToTenant actorValue path =>
    [fieldText "actor_value" actorValue.display, fieldText "subject_path" path.display,
     kindField .belongsToTenant]
  | .not inner =>
    [fieldText "expr" (bracketed (inner.className ++ "(") (displayFields inner) ")"),
     kindField .not]
  | junction kind rules =>
    [kindField kind.kind, fieldText "rules" (tupleText (displayAll rules))]
  | function _ description =>
    [fieldText "fn" "<function>", fieldText "description" (Text.quoted description),
     kindField .function]

/-- The texts of some nodes. -/
def displayAll : List (Expr F) → List String
  | [] => []
  | e :: rest => bracketed (e.className ++ "(") (displayFields e) ")" :: displayAll rest

end

/-- The text of a node in a message. -/
def display (e : Expr F) : String :=
  bracketed (e.className ++ "(") (displayFields e) ")"

end Clearance.Expr
