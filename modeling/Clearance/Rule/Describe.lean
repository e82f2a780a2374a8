/-
  The description of a rule: a compact text that shows the shape of the tree, its paths and
  its constants.  Actor values appear by the path they were read from, never by value.

  * `Expr.describe` is the description.
-/
import Clearance.Rule.Basic

namespace Clearance.Expr

variable {F : Type}

/-- The name that a function goes by in texts. -/
def functionLabel (description : String) : String :=
  if description.isEmpty then "<anonymous>" else description

/-- A kind with its arguments. -/
def call (name : String) (arguments : List String) : String :=
  bracketed (name ++ "(") arguments ")"

mutual

/-- The description of a rule. -/
def describe : Expr F → String
  | literal value => if value then "true" else "false"
  | comparison op left right => call op.kind.name [left.text, right.describe]
  | inArray path values =>
    call "inArray" [path.text, bracketed "[" (values.map Scalar.display) "]"]
  | nullCheck test path => call test.kind.name [path.text]
  | textMatch test path text => call test.kind.name [path.text, Text.quoted text]
  | between path min max => call "between" [path.text, min.describe, max.describe]
  | .matches path pattern flags =>
    call "matches" ([path.text, Text.quoted pattern] ++
      if flags.isEmpty then [] else [Text.quoted (flagText flags)])
  | related kind table predicate minCount =>
    call kind.kind.name ([table, predicate.describe] ++
      if kind = .exists then [] else ["min=" ++ toString minCount])
  | tenantScoped path => call "tenantScoped" [path.text]
  | belongsToTenant actorValue path => call "belongsToTenant" [actorValue.source, path.text]
  | .not inner => call "not" [inner.describe]
  | junction kind rules => call kind.kind.name (describeAll rules)
  | function _ description => call "function" [functionLabel description]

/-- The descriptions of some rules. -/
def describeAll : List (Expr F) → List String
  | [] => []
  | e :: rest => e.describe :: describeAll rest

end

end Clearance.Expr
