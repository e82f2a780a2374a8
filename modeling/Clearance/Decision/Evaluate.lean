/-
  Deciding a rule on the spot.

  The resources map tables to records, or to sequences of rows where the table is a related
  one.  What is missing reads as null, and a sequence has no columns.  Orderings are false
  where an operand is null or the two cannot be ordered, equality is that of values, and a
  related node counts the rows that satisfy its predicate until there are enough of them.

  * `evaluateNode` decides an expression when it is known what to do at a function node;
    `evaluateWithin` allows a number of further expansions along a path of the tree, and
    `Expr.evaluate` starts with the number that the configuration allows.
-/
import Clearance.Decision.Run
import Clearance.Pattern.Search
import Clearance.Text.Affix
import Clearance.Value.Order

namespace Clearance

variable [CharacterNames] {F : Type}

/-! ## Operands -/

/-- The value of a column; a sequence has no columns. -/
def readPath (resources : Value) (p : PathRef) : Value :=
  let record := resources.field p.table
  if record.rows?.isSome then .null else record.field p.column

/-- The value of a column, if its table is open. -/
def resolvePath (resources : Value) (opened : List String) (p : PathRef) : Result Value := do
  checkScope p opened
  return readPath resources p

/-- The value of an operand. -/
def resolveOperand (resources : Value) (opened : List String) : Operand → Result Value
  | .path p => resolvePath resources opened p
  | .actor a => .ok a.value
  | .scalar s => .ok (.scalar s)

/-! ## Tests -/

/-- Whether an ordering of two values satisfies a comparison. -/
def CompareOp.admits : CompareOp → Ordering → Bool
  | gt, o => o == .gt
  | lt, o => o == .lt
  | gte, o => o != .lt
  | lte, o => o != .gt
  | eq, o => o == .eq
  | neq, o => o != .eq

/-- Whether two values are ordered as asked; false where one is null or they have no order. -/
def ordered (op : CompareOp) (left right : Value) : Except InvalidOperation Bool :=
  if left.isNull || right.isNull then .ok false
  else do return ((← left.compare? right).map op.admits).getD false

/-- Compares two values. -/
def compareValues (op : CompareOp) (left right : Value) : Except InvalidOperation Bool :=
  match op with
  | .eq => left.equal right
  | .neq => do return !(← left.equal right)
  | op => ordered op left right

/-- Whether a value lies between two others, ends included. -/
def isBetween (v low high : Value) : Except InvalidOperation Bool := do
  if ← ordered .gte v low then ordered .lte v high else return false

/-- Tests a text against a text. -/
def TextTest.holds : TextTest → String → String → Bool
  | startsWith, text, s => Text.startsWith text.toList s.toList
  | endsWith, text, s => Text.endsWith text.toList s.toList
  | contains, text, s => Text.contains text.toList s.toList

/-- Whether two values are equal and neither is null. -/
def equalPresent (a b : Value) : Except InvalidOperation Bool :=
  if a.isNull || b.isNull then .ok false else a.equal b

/-- Decides a node that tests columns; other nodes are none of its business. -/
def evaluateLeaf (config : Config) (actor resources : Value) (opened : List String) :
    Expr F → Result Bool
  | .comparison op left right => do
    let left ← resolvePath resources opened left
    let right ← resolveOperand resources opened right
    Result.ofComparison (compareValues op left right)
  | .inArray path values =>
    if values.isEmpty then .ok false
    else do Result.ofComparison ((← resolvePath resources opened path).isIn values)
  | .nullCheck test path => do
    let v ← resolvePath resources opened path
    return match test with
      | .isNull => v.isNull
      | .isNotNull => !v.isNull
  | .textMatch test path text => do
    return match ← resolvePath resources opened path with
      | .str s => test.holds text s
      | _ => false
  | .between path min max => do
    let v ← resolvePath resources opened path
    let low ← resolveOperand resources opened min
    let high ← resolveOperand resources opened max
    Result.ofComparison (isBetween v low high)
  | .matches path pattern flags => do
    match ← resolvePath resources opened path with
    | .str s => Pattern.finds pattern flags s
    | _ => return false
  | .tenantScoped path => do
    let tenant ← lookupTenant actor path.column config.tenantNamespace
    let v ← resolvePath resources opened path
    Result.ofComparison (equalPresent tenant v)
  | .belongsToTenant a path => do
    let v ← resolvePath resources opened path
    Result.ofComparison (equalPresent a.value v)
  | _ => .ok false

/-! ## Trees -/

/-- Whether at least some number of rows satisfy a predicate; no row is looked at once there
    are enough. -/
def countRows {m : Type → Type} [Monad m] (needed : Nat) (predicate : Value → m Bool) :
    List Value → m Bool
  | [] => return needed == 0
  | row :: rows =>
    if needed == 0 then return true
    else do
      if ← predicate row then countRows (needed - 1) predicate rows
      else countRows needed predicate rows

/-- The resources with a table bound to one of its rows. -/
def bindTable (resources : Value) (table : String) (row : Value) : Result Value :=
  match resources.withField? table row with
  | some v => .ok v
  | none => .error (.notMapping resources.qualifiedTypeName)

/-- What to do at a function node, given the resources and the open tables. -/
abbrev OnFunction (F : Type) (α : Type) := F → String → α

mutual

/-- Decides an expression, given what to do at a function node. -/
def evaluateNode (config : Config) (actor : Value)
    (onFunction : OnFunction F (Value → List String → Run F Bool))
    (resources : Value) (opened : List String) : Expr F → Run F Bool
  | .literal value => do
    Run.charge config
    return value
  | .function fn description => do
    Run.charge config
    onFunction fn description resources opened
  | .related _ table predicate minCount => do
    Run.charge config
    if minCount == 0 then return true
    match (resources.field table).rows? with
    | none => return false
    | some rows =>
      countRows minCount (fun row => do
        let bound ← Run.ofResult (bindTable resources table row)
        evaluateNode config actor onFunction bound (opened ++ [table]) predicate) rows
  | .not e => do
    Run.charge config
    return !(← evaluateNode config actor onFunction resources opened e)
  | .junction kind rules => do
    Run.charge config
    evaluateJunction config actor onFunction resources opened kind rules
  | e => do
    Run.charge config
    Run.ofResult (evaluateLeaf config actor resources opened e)

/-- Decides a junction from left to right, until a rule settles it. -/
def evaluateJunction (config : Config) (actor : Value)
    (onFunction : OnFunction F (Value → List String → Run F Bool))
    (resources : Value) (opened : List String) (kind : Junction) : List (Expr F) → Run F Bool
  | [] => return kind == .and
  | e :: rest => do
    let b ← evaluateNode config actor onFunction resources opened e
    if b == (kind == .and) then
      evaluateJunction config actor onFunction resources opened kind rest
    else return b

end

/-- Decides an expression with a number of further expansions allowed along a path. -/
def evaluateWithin (config : Config) (call : Meaning F) (actor : Value) :
    Nat → Value → List String → Expr F → Run F Bool
  | 0 => evaluateNode config actor fun _ description _ _ =>
      throw (.depthExceeded description config.maxFunctionDepth)
  | remaining + 1 => evaluateNode config actor fun fn description resources opened => do
      let e ← Run.expand call actor (config.maxFunctionDepth - (remaining + 1)) fn description
      evaluateWithin config call actor remaining resources opened e

/-- Decides an expression for an actor on resources. -/
def Expr.evaluate (config : Config) (call : Meaning F) (actor resources : Value) (e : Expr F) :
    Run F Bool :=
  evaluateWithin config call actor config.maxFunctionDepth resources [] e

/-- Decides a rule for an actor on resources. -/
def Rule.evaluate (config : Config) (call : Meaning F) (actor resources : Value) (r : Rule F) :
    Run F Bool := do
  (← Run.ofResult r.toExpr).evaluate config call actor resources

end Clearance
