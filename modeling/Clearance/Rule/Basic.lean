/-
  Rules.

  An `Expr` is a tree of tests joined by negation, conjunction and disjunction.  Its leaves
  test columns of the subject against constants, actor values and other columns; a related
  node counts the rows of a related table that satisfy a predicate of their own; and a
  function node stands for an expression or a truth value that is computed from the actor
  when the rule is used.  Functions are symbols of a type `F`; what they return is given
  apart from the tree, so a function may well return a tree that holds the function itself.

  A `Rule` is what a caller may hand in as a rule: an expression, a bare function, or a
  value, of which only truth values are good for anything.

  * `Expr.kind` is the kind of a node, `Expr.className` the name of its shape;
  * `Expr.children` are the direct parts of a node.
-/
import Clearance.Rule.Kind
import Clearance.Rule.Reference

namespace Clearance

/-- The flags of a pattern. -/
inductive PatternFlag where
  | ignoreCase | multiline | dotAll | verbose
deriving DecidableEq, Repr

namespace PatternFlag

/-- The letter of a flag. -/
def letter : PatternFlag → Char
  | ignoreCase => 'i'
  | multiline => 'm'
  | dotAll => 's'
  | verbose => 'x'

/-- The flag of a letter. -/
def ofLetter? : Char → Option PatternFlag
  | 'i' => some ignoreCase
  | 'm' => some multiline
  | 's' => some dotAll
  | 'x' => some verbose
  | _ => none

end PatternFlag

/-- The letters of some flags. -/
def flagText (flags : List PatternFlag) : String := String.ofList (flags.map PatternFlag.letter)

/-- The expression of a rule. -/
inductive Expr (F : Type) where
  /-- A constant. -/
  | literal (value : Bool)
  /-- A column compared with an operand. -/
  | comparison (op : CompareOp) (left : PathRef) (right : Operand)
  /-- A column is one of some constants. -/
  | inArray (path : PathRef) (values : List Scalar)
  /-- A column is null, or is not. -/
  | nullCheck (test : NullTest) (path : PathRef)
  /-- A column begins with, ends with or contains a text. -/
  | textMatch (test : TextTest) (path : PathRef) (text : String)
  /-- A column lies between two operands, ends included. -/
  | between (path : PathRef) (min max : Operand)
  /-- A column matches a pattern. -/
  | matches (path : PathRef) (pattern : String) (flags : List PatternFlag)
  /-- At least some number of rows of a related table satisfy a predicate. -/
  | related (kind : RelatedKind) (table : String) (predicate : Expr F) (minCount : Nat)
  /-- A column equals the actor's field of the same name. -/
  | tenantScoped (path : PathRef)
  /-- A column equals a value of the actor. -/
  | belongsToTenant (actorValue : ActorRef) (path : PathRef)
  /-- The negation of a rule. -/
  | not (expr : Expr F)
  /-- The conjunction or disjunction of rules. -/
  | junction (kind : Junction) (rules : List (Expr F))
  /-- A function of the actor. -/
  | function (fn : F) (description : String)

/-- What may be handed in as a rule. -/
inductive Rule (F : Type) where
  | expr (e : Expr F)
  /-- A bare function, with the name it was defined under. -/
  | function (fn : F) (name : String)
  | value (v : Value)

namespace Expr

variable {F : Type}

/-- The kind of a node. -/
def kind : Expr F → Kind
  | literal _ => .literal
  | comparison op _ _ => op.kind
  | inArray _ _ => .inArray
  | nullCheck test _ => test.kind
  | textMatch test _ _ => test.kind
  | between _ _ _ => .between
  | .matches _ _ _ => .matches
  | related k _ _ _ => k.kind
  | tenantScoped _ => .tenantScoped
  | belongsToTenant _ _ => .belongsToTenant
  | .not _ => .not
  | junction k _ => k.kind
  | function _ _ => .function

/-- The name of a node's shape. -/
def className : Expr F → String
  | literal _ => "Literal"
  | comparison _ _ _ => "Comparison"
  | inArray _ _ => "InArray"
  | nullCheck _ _ => "NullCheck"
  | textMatch _ _ _ => "TextMatch"
  | between _ _ _ => "Between"
  | .matches _ _ _ => "Matches"
  | related _ _ _ _ => "Related"
  | tenantScoped _ => "TenantScoped"
  | belongsToTenant _ _ => "BelongsToTenant"
  | .not _ => "Not"
  | junction _ _ => "Junction"
  | function _ _ => "Function"

/-- The direct parts of a node. -/
def children : Expr F → List (Expr F)
  | junction _ rules => rules
  | .not e => [e]
  | related _ _ predicate _ => [predicate]
  | _ => []

mutual

/-- The number of nodes of a tree. -/
def size : Expr F → Nat
  | junction _ rules => sizeAll rules + 1
  | .not e => e.size + 1
  | related _ _ predicate _ => predicate.size + 1
  | _ => 1

/-- The number of nodes of some trees. -/
def sizeAll : List (Expr F) → Nat
  | [] => 0
  | e :: rest => e.size + sizeAll rest

end

theorem sizeAll_append (es fs : List (Expr F)) : sizeAll (es ++ fs) = sizeAll es + sizeAll fs := by
  induction es with
  | nil => simp [sizeAll]
  | cons e rest ih => simp [sizeAll, ih, Nat.add_assoc]

theorem size_eq (e : Expr F) : e.size = sizeAll e.children + 1 := by
  cases e <;> simp [size, children, sizeAll]

end Expr

namespace Rule

variable {F : Type}

/-- The word for the type of a rule. -/
def typeName : Rule F → String
  | .expr e => e.className
  | .function _ _ => "function"
  | .value v => v.typeName

end Rule

end Clearance
