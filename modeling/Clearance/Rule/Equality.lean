/-
  Equality of rules.

  Two nodes are equal if they have the same shape and kind and equal fields.  Constants are
  compared as values, so that true, one and `1.0` are interchangeable; actor values are
  compared without their source; functions are the same symbol under the same description.

  * `Expr.equal` and `Rule.equal` decide it; comparing constants can fail as `Value.equal`
    can.
-/
import Clearance.Rule.Basic

namespace Clearance

/-- Whether two lists of constants are equal, item by item. -/
def equalScalars : List Scalar → List Scalar → Except InvalidOperation Bool
  | [], [] => .ok true
  | s :: ss, t :: ts => do
    if s.identical t then equalScalars ss ts
    else if ← s.equal t then equalScalars ss ts
    else return false
  | _, _ => .ok false

namespace Expr

variable {F : Type} [BEq F]

mutual

/-- Equality of expressions. -/
def equal : Expr F → Expr F → Except InvalidOperation Bool
  | literal a, literal b => .ok (a = b)
  | comparison op p x, comparison op' q y =>
    if op = op' ∧ p = q then x.equal y else .ok false
  | inArray p xs, inArray q ys => if p = q then equalScalars xs ys else .ok false
  | nullCheck t p, nullCheck t' q => .ok (t = t' ∧ p = q)
  | textMatch t p x, textMatch t' q y => .ok (t = t' ∧ p = q ∧ x = y)
  | between p a b, between q c d => do
    if p = q then
      if ← a.equal c then b.equal d else return false
    else return false
  | .matches p x f, .matches q y g => .ok (p = q ∧ x = y ∧ f = g)
  | related k t p n, related k' t' q m =>
    if k = k' ∧ t = t' then do
      if ← p.equal q then return decide (n = m) else return false
    else .ok false
  | tenantScoped p, tenantScoped q => .ok (p = q)
  | belongsToTenant a p, belongsToTenant b q => do
    if ← a.equal b then return decide (p = q) else return false
  | .not a, .not b => a.equal b
  | junction k as, junction k' bs => if k = k' then equalAll as bs else .ok false
  | function f d, function g d' => .ok (f == g && d == d')
  | _, _ => .ok false

/-- Equality of lists of expressions. -/
def equalAll : List (Expr F) → List (Expr F) → Except InvalidOperation Bool
  | [], [] => .ok true
  | a :: as, b :: bs => do
    if ← a.equal b then equalAll as bs else return false
  | _, _ => .ok false

end

end Expr

/-- Equality of rules. -/
def Rule.equal {F : Type} [BEq F] : Rule F → Rule F → Except InvalidOperation Bool
  | .expr a, .expr b => a.equal b
  | .function f _, .function g _ => .ok (f == g)
  | .value v, .value w => if v.identical w then .ok true else v.equal w
  | _, _ => .ok false

end Clearance
