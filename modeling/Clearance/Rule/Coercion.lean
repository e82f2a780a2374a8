/-
  Rules as expressions.

  * `Rule.expr` turns a rule into an expression: truth values become constants and bare
    functions become function nodes under their own name; nothing else will do.
-/
import Clearance.Error.Basic
import Clearance.Rule.Describe

namespace Clearance

variable {F : Type}

/-- A rule as an expression. -/
def Rule.toExpr : Rule F → Result (Expr F)
  | .expr e => .ok e
  | .value (.bool b) => .ok (.literal b)
  | .function fn name => .ok (.function fn name)
  | r => .error (.notRule r.typeName)

/-- The description of a rule. -/
def Rule.describe (r : Rule F) : Result String := do return (← r.toExpr).describe

end Clearance
