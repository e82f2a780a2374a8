/-
  Running over a rule: what deciding and compiling have in common.

  A run charges every node that it visits to a budget, expands functions up to a depth, and
  keeps a record of what it did.  What a function returns for an actor is given by a
  `Meaning`.  A path on the row of a related table may be read only inside a related node
  over that table.

  * `Run` is the effect of running: an error may stop it, and the `Tally` is kept all the
    same;
  * `Run.charge` charges a node, `Run.expand` expands a function, `checkScope` checks a path;
  * `lookupTenant` finds the actor's value for a tenant column.
-/
import Clearance.Config
import Clearance.Rule.Coercion

namespace Clearance

/-- What functions return for an actor. -/
abbrev Meaning (F : Type) := F → Value → Result (Rule F)

/-- Something that a run did besides visiting nodes. -/
inductive Event (F : Type) where
  /-- A function was called, at a depth counted from one. -/
  | expanded (fn : F) (description : String) (depth : Nat)
  /-- A pattern was compiled to `LIKE`. -/
  | patternAsLike (pattern : String)
  /-- A pattern was left to the database. -/
  | patternNative (pattern : String)
  /-- A bare function was left out when policies were joined. -/
  | skipped (action subject : String) (kind : Junction)
  /-- An action was decided. -/
  | decided (subject action : String) (allowed : Bool)
  /-- An action was compiled. -/
  | compiled (subject action : String)

/-- The record of a run. -/
structure Tally (F : Type) where
  /-- How many nodes were charged. -/
  nodes : Nat := 0
  /-- What else was done, the latest first. -/
  events : List (Event F) := []

/-- The effect of running over a rule. -/
abbrev Run (F : Type) (α : Type) := ExceptT Error (StateM (Tally F)) α

namespace Run

variable {F : Type} {α : Type}

/-- The outcome of a run with its record. -/
def outcome (run : Run F α) : Result α × Tally F := ExceptT.run run {}

/-- The outcome of a run. -/
def result (run : Run F α) : Result α := run.outcome.1

/-- Records an event. -/
def record (e : Event F) : Run F Unit :=
  modify fun t => { t with events := e :: t.events }

/-- Charges a node to the budget. -/
def charge (config : Config) : Run F Unit := do
  modify fun t => { t with nodes := t.nodes + 1 }
  let t ← get
  match config.maxExpressionNodes with
  | some limit => if limit < t.nodes then throw (.budgetExceeded limit)
  | none => return ()

/-- A step that can fail, as a run. -/
def ofResult (r : Result α) : Run F α := liftExcept r

/-- A comparison as a run. -/
def ofComparison (r : Except InvalidOperation α) : Run F α := ofResult (Result.ofComparison r)

/-- What a function returned, as an expression. -/
def resultExpr (description : String) : Rule F → Result (Expr F)
  | .value (.bool b) => .ok (.literal b)
  | .expr e => .ok e
  | r => .error (.badResult description r.typeName)

/-- Expands a function at a depth at which this is still admitted. -/
def expand (call : Meaning F) (actor : Value) (depth : Nat) (fn : F) (description : String) :
    Run F (Expr F) := do
  record (.expanded fn description (depth + 1))
  let rule ← ofResult (call fn actor)
  ofResult (resultExpr description rule)

end Run

/-- Rejects a path on the row of a table that is not open. -/
def checkScope (p : PathRef) (opened : List String) : Result Unit :=
  if p.isScoped && !opened.contains p.table then .error (.strayPath p (some opened)) else .ok ()

/-- The actor's value for a tenant column: under the given part of the actor, or else at the
    top.  A null counts as a value. -/
def lookupTenant (actor : Value) (column space : String) : Result Value :=
  match (actor.field? space).bind fun part => part.field? column with
  | some v => .ok v
  | none =>
    match actor.field? column with
    | some v => .ok v
    | none => .error (.missingTenantField column space)

end Clearance
