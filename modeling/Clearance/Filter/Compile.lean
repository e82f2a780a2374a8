/-
  Compiling a rule to a condition on rows.

  The condition is never null: tests of a column are guarded by a test that it is not null,
  and columns are compared so that null equals null.  Every path is looked up in the
  declarations, also where the outcome no longer depends on it, and functions are expanded
  as they are met.

  * `compileNode` compiles an expression when it is known what to do at a function node;
    `compileWithin` allows a number of further expansions along a path of the tree, and
    `Expr.compile` starts with the number that the configuration allows.
-/
import Clearance.Decision.Evaluate
import Clearance.Filter.Tables
import Clearance.Pattern.Like

namespace Clearance

open Sql

variable {F : Type}

/-! ## Operands -/

/-- The column of a path, if its table is open. -/
def columnOf (d : Declarations) (opened : List String) (p : PathRef) : Result Column := do
  checkScope p opened
  return (← d.column p).column

/-- What an operand stands for in a condition. -/
def termOf (d : Declarations) (opened : List String) : Operand → Result Term
  | .path p => return .column (← columnOf d opened p)
  | .actor a => .ok (.value a.value)
  | .scalar s => .ok (.value (.scalar s))

/-! ## Tests -/

/-- A column equals a value or another column. -/
def equalClause (c : Column) : Term → Clause
  | .column d => .same c d
  | .value .null => .isNull c
  | .value (.bool b) => Clause.conj [.isNotNull c, .equalsBool c b]
  | .value v => Clause.conj [.isNotNull c, .equals c v]

/-- A column is ordered against a value or another column. -/
def orderClause (op : OrderOp) (c : Column) : Term → Clause
  | .value .null => .truth false
  | .value v => Clause.conj [.isNotNull c, .order op c (.value v)]
  | .column d => Clause.conj [.isNotNull c, .isNotNull d, .order op c (.column d)]

/-- A comparison of a column. -/
def compareClause (op : CompareOp) (c : Column) (right : Term) : Clause :=
  match op with
  | .eq => equalClause c right
  | .neq => (equalClause c right).negate
  | .gt => orderClause .gt c right
  | .lt => orderClause .lt c right
  | .gte => orderClause .gte c right
  | .lte => orderClause .lte c right

/-- A column is one of some constants; null is one of them only by a test of its own. -/
def oneOfClause (c : Column) (values : List Scalar) : Clause :=
  let present := values.filter (· != .null)
  let tests :=
    (if present.isEmpty then [] else [Clause.conj [.isNotNull c, .oneOf c present]]) ++
      (if present.length = values.length then [] else [.isNull c])
  match tests with
  | [] => .truth false
  | [t] => t
  | ts => Clause.disj ts

/-- A column equals a value of the actor, if that is not null. -/
def presentClause (c : Column) (v : Value) : Clause :=
  if v.isNull then .truth false else equalClause c (.value v)

/-- The `LIKE` form that a pattern is compiled to under a strategy, if it is. -/
def likeForm? (strategy : RegexStrategy) (pattern : String) (flags : List PatternFlag) :
    Option String :=
  if strategy != .native && flags.all (· == .ignoreCase) then Pattern.likeOf? pattern else none

/-- The test of a pattern under a strategy. -/
def patternClause (strategy : RegexStrategy) (c : Column) (pattern : String)
    (flags : List PatternFlag) : Result Clause :=
  match likeForm? strategy pattern flags with
  | some form => .ok (if flags.isEmpty then .like c form else .likeLower c form)
  | none =>
    if strategy == .like then .error (.unsupportedPattern pattern (flagText flags))
    else .ok (.regexp c (Pattern.inlineFlags pattern flags))

/-- Compiles a node that tests columns; other nodes are none of its business. -/
def leafClause (config : Config) (d : Declarations) (actor : Value) (opened : List String) :
    Expr F → Result Clause
  | .comparison op left right => do
    let c ← columnOf d opened left
    return compareClause op c (← termOf d opened right)
  | .inArray path values => do return oneOfClause (← columnOf d opened path) values
  | .nullCheck test path => do
    let c ← columnOf d opened path
    return match test with
      | .isNull => .isNull c
      | .isNotNull => .isNotNull c
  | .textMatch test path text => do
    let c ← columnOf d opened path
    return Clause.conj [.isNotNull c, .affix test c text]
  | .between path min max => do
    let c ← columnOf d opened path
    let low ← termOf d opened min
    let high ← termOf d opened max
    return Clause.conj [orderClause .gte c low, orderClause .lte c high]
  | .matches path pattern flags => do
    let c ← columnOf d opened path
    return Clause.conj [.isNotNull c, ← patternClause config.regexStrategy c pattern flags]
  | .tenantScoped path => do
    let c ← columnOf d opened path
    return presentClause c (← lookupTenant actor path.column config.tenantNamespace)
  | .belongsToTenant a path => do return presentClause (← columnOf d opened path) a.value
  | _ => .ok (.truth false)

/-- Records what became of a pattern. -/
def recordPattern (config : Config) : Expr F → Run F Unit
  | .matches _ pattern flags =>
    Run.record (match likeForm? config.regexStrategy pattern flags with
      | some _ => .patternAsLike pattern
      | none => .patternNative pattern)
  | _ => return ()

/-- Compiles a node that tests columns, with a record of what became of its pattern. -/
def compileLeaf (config : Config) (d : Declarations) (actor : Value) (opened : List String)
    (e : Expr F) : Run F Clause := do
  let c ← Run.ofResult (leafClause config d actor opened e)
  recordPattern config e
  return c

/-! ## Trees -/

/-- At least some number of rows of a table satisfy a clause. -/
def rowsClause (table : String) (p : Clause) (minCount : Nat) : Clause :=
  match minCount with
  | 0 => .truth true
  | 1 => .exists table p
  | n => .count table p true n

/-- The clauses of a junction as one. -/
def junctionClause (kind : Junction) (cs : List Clause) : Clause :=
  match kind, cs with
  | .and, [] => .truth true
  | .or, [] => .truth false
  | _, [c] => c
  | .and, cs => Clause.conj cs
  | .or, cs => Clause.disj cs

mutual

/-- Compiles an expression, given what to do at a function node. -/
def compileNode (config : Config) (d : Declarations) (actor : Value)
    (onFunction : OnFunction F (List String → Run F Clause)) (opened : List String) :
    Expr F → Run F Clause
  | .literal value => do
    Run.charge config
    return .truth value
  | .function fn description => do
    Run.charge config
    onFunction fn description opened
  | .related _ table predicate minCount => do
    Run.charge config
    let columns ← Run.ofResult (d.table table)
    let owner ← Run.ofResult columns.owner
    let p ← compileNode config d actor onFunction (opened ++ [table]) predicate
    return rowsClause owner p minCount
  | .not e => do
    Run.charge config
    return (← compileNode config d actor onFunction opened e).negate
  | .junction kind rules => do
    Run.charge config
    return junctionClause kind (← compileAll config d actor onFunction opened rules)
  | e => do
    Run.charge config
    compileLeaf config d actor opened e

/-- Compiles expressions, from left to right. -/
def compileAll (config : Config) (d : Declarations) (actor : Value)
    (onFunction : OnFunction F (List String → Run F Clause)) (opened : List String) :
    List (Expr F) → Run F (List Clause)
  | [] => return []
  | e :: rest => do
    let c ← compileNode config d actor onFunction opened e
    return c :: (← compileAll config d actor onFunction opened rest)

end

/-- Compiles an expression with a number of further expansions allowed along a path. -/
def compileWithin (config : Config) (call : Meaning F) (d : Declarations) (actor : Value) :
    Nat → List String → Expr F → Run F Clause
  | 0 => compileNode config d actor fun _ description _ =>
      throw (.depthExceeded description config.maxFunctionDepth)
  | remaining + 1 => compileNode config d actor fun fn description opened => do
      let e ← Run.expand call actor (config.maxFunctionDepth - (remaining + 1)) fn description
      compileWithin config call d actor remaining opened e

/-- Compiles an expression for an actor. -/
def Expr.compile (config : Config) (call : Meaning F) (d : Declarations) (actor : Value)
    (e : Expr F) : Run F Clause :=
  compileWithin config call d actor config.maxFunctionDepth [] e

/-- Compiles a rule for an actor. -/
def Rule.compile (config : Config) (call : Meaning F) (d : Declarations) (actor : Value)
    (r : Rule F) : Run F Clause := do
  (← Run.ofResult r.toExpr).compile config call d actor

end Clearance
