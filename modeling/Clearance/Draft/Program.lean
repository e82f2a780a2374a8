/-
  Drafts: programs that build rules.

  A draft says which operators are applied to which arguments.  It is built under a
  `Setting`, which holds the schema of the paths and the actor that actor values are read
  from, and with names for the rows of the related tables that are open around it.  A
  function in a draft has a body, which runs each time the function is called: it may look
  at fields of what it was called with, and returns a rule that is built on the spot.

  * `RuleDraft.build` and `ArgumentDraft.build` build a rule and an argument;
  * `Hatch` is a function that a draft has defined, and `Hatch.call` calls it;
  * `Build` is the effect of building: an error may stop it, and the names of the functions
    called on the way are recorded.
-/
import Clearance.Draft.Node

namespace Clearance

mutual

/-- A program that builds a rule. -/
inductive RuleDraft where
  | value (v : Value)
  | expression (rule : RuleDraft)
  | compare (op : CompareOp) (left right : ArgumentDraft)
  | between (path low high : ArgumentDraft)
  | inArray (path values : ArgumentDraft)
  | nullCheck (test : NullTest) (path : ArgumentDraft)
  | textMatch (test : TextTest) (path : ArgumentDraft) (text : Value)
  | search (path : ArgumentDraft) (pattern flags : Value)
  | tenantScoped (path : ArgumentDraft)
  | belongsToTenant (actorValue path : ArgumentDraft)
  | literal (v : Value)
  | negation (rule : RuleDraft)
  | junction (kind : Junction) (rules : List RuleDraft)
  /-- A test of related rows with a predicate on the row that is bound to a name. -/
  | relatedRow (kind : RelatedKind) (table : ArgumentDraft) (row : String) (predicate : RuleDraft)
      (minCount : Value)
  /-- A test of related rows with a predicate that is built beforehand. -/
  | relatedRule (kind : RelatedKind) (table : ArgumentDraft) (predicate : RuleDraft)
      (minCount : Value)
  /-- A bare function; the serial number tells it from other functions. -/
  | bare (serial : Nat) (name : String) (body : BodyDraft)
  /-- A function node over a rule. -/
  | function (rule : RuleDraft) (description : String)
  /-- A node built by hand. -/
  | node (shape : Shape) (fields : List (String × FieldDraft))

/-- A program that builds an argument. -/
inductive ArgumentDraft where
  | subject (names : List String)
  | scopedTable (table : String) (names : List String)
  | asScoped (a : ArgumentDraft) (names : List String)
  /-- The row that is bound to a name. -/
  | row (row : String) (names : List String)
  /-- Fields named on the actor. -/
  | actor (names : List String)
  | asActor (a : ArgumentDraft)
  | pathRef (p : PathRef)
  | tableRef (name : String)
  | actorRef (a : ActorRef)
  | rule (r : RuleDraft)
  | value (v : Value)

/-- The body of a function. -/
inductive BodyDraft where
  | give (rule : RuleDraft)
  /-- Goes on by whether a field, reached by names, equals a value. -/
  | test (names : List String) (v : Value) (yes no : BodyDraft)
  | fail (message : String)
  /-- Returns a function node over the function itself. -/
  | again

/-- A field of a node built by hand. -/
inductive FieldDraft where
  | kind (v : Value)
  | one (a : ArgumentDraft)
  | tuple (as : List ArgumentDraft)

end

/-- What drafts are built under. -/
structure Setting where
  schema : SchemaSource
  actor : Value

/-- A related table whose row is at hand. -/
structure OpenRow where
  table : String
  schema : Option Schema

/-- A function that a draft has defined. -/
structure Hatch where
  serial : Nat
  name : String
  body : BodyDraft
  setting : Setting
  rows : List (String × OpenRow)

instance : BEq Hatch := ⟨fun a b => a.serial == b.serial⟩

/-- Building: an error may stop it, and the functions called are recorded, the latest first. -/
abbrev Build (α : Type) := ExceptT Error (StateM (List String)) α

namespace Build

/-- Records the call of a function. -/
def logCall (name : String) : Build Unit := fun calls => (.ok (), name :: calls)

/-- The names of the functions called, in order, and the outcome. -/
def outcome {α : Type} (b : Build α) : List String × Result α :=
  let (result, calls) := b.run []
  (calls.reverse, result)

end Build

/-- Names several fields of what a function was called with. -/
def fieldChain (a : Argument Hatch) : List String → Result (Argument Hatch)
  | [] => .ok a
  | name :: rest => do fieldChain (← a.field name) rest

/-- The kind that a value names. -/
def kindOfValue (v : Value) : Result Kind :=
  match v.text?.bind Kind.ofName? with
  | some k => .ok k
  | none => .error (.notKind v.display)

/-- The row that is bound to a name. -/
def rowArgument (rows : List (String × OpenRow)) (name : String) : Result (Argument Hatch) :=
  match rows.lookup name with
  | some row => .ok (.table row.table true row.schema)
  | none => .error (.missingKey name)

/-- The rows in scope with one more. -/
def bindRow (rows : List (String × OpenRow)) (name : String) (a : Argument Hatch) :
    List (String × OpenRow) :=
  match a with
  | .table table _ schema => (name, ⟨table, schema⟩) :: rows
  | _ => rows

variable [CharacterNames]

mutual

/-- Builds a rule. -/
def RuleDraft.build (setting : Setting) (rows : List (String × OpenRow)) :
    RuleDraft → Build (Rule Hatch)
  | .value v => return .value v
  | .expression rule => do return .expr (← liftExcept (← rule.build setting rows).toExpr)
  | .compare op left right => do
    let left ← left.build setting rows
    let right ← right.build setting rows
    return .expr (← liftExcept (Operator.compare op left right))
  | .between path low high => do
    let path ← path.build setting rows
    let low ← low.build setting rows
    let high ← high.build setting rows
    return .expr (← liftExcept (Operator.between path low high))
  | .inArray path values => do
    let path ← path.build setting rows
    let values ← values.build setting rows
    return .expr (← liftExcept (Operator.inArray path values))
  | .nullCheck test path => do
    return .expr (← liftExcept (Operator.nullCheck test (← path.build setting rows)))
  | .textMatch test path text => do
    return .expr (← liftExcept (Operator.textMatch test (← path.build setting rows) text))
  | .search path pattern flags => do
    return .expr (← liftExcept (Operator.search (← path.build setting rows) pattern flags))
  | .tenantScoped path => do
    return .expr (← liftExcept (Operator.tenantScoped (← path.build setting rows)))
  | .belongsToTenant actorValue path => do
    let actorValue ← actorValue.build setting rows
    let path ← path.build setting rows
    return .expr (← liftExcept (Operator.belongsToTenant actorValue path))
  | .literal v => do return .expr (← liftExcept (Operator.literal v))
  | .negation rule => do
    return .expr (← liftExcept (Operator.negation (← rule.build setting rows)))
  | .junction kind rules => do
    return .expr (← liftExcept (Operator.junction kind (← buildRules setting rows rules)))
  | .relatedRow kind table row predicate minCount => do
    let table ← table.build setting rows
    let (name, inner) ← liftExcept (Operator.openTable kind table)
    let predicate ← predicate.build setting (bindRow rows row inner)
    return .expr (← liftExcept (Operator.related kind name predicate minCount))
  | .relatedRule kind table predicate minCount => do
    let rule ← predicate.build setting rows
    let table ← table.build setting rows
    let (name, inner) ← liftExcept (Operator.openTable kind table)
    let rule ← match rule with
      | .expr e => pure (.expr e)
      | .function hatch _ => predicate.callWith setting rows hatch inner
      | .value v => throw (.notCallable v.qualifiedTypeName)
    return .expr (← liftExcept (Operator.related kind name rule minCount))
  | .bare serial name body => return .function ⟨serial, name, body, setting, rows⟩ name
  | .function rule description => do
    return .expr (← liftExcept (Operator.function (← rule.build setting rows) description))
  | .node shape fields => do
    return .expr (← liftExcept (shape.make (← buildFields setting rows fields)))

/-- Calls the function that the draft of a bare function defines. -/
def RuleDraft.callWith (setting : Setting) (rows : List (String × OpenRow)) (hatch : Hatch)
    (a : Argument Hatch) : RuleDraft → Build (Rule Hatch)
  | .bare _ name body => do
    Build.logCall name
    body.run setting rows hatch a
  | _ => throw (.notCallable "function")

/-- Builds rules, from left to right. -/
def buildRules (setting : Setting) (rows : List (String × OpenRow)) :
    List RuleDraft → Build (List (Rule Hatch))
  | [] => return []
  | rule :: rest => do
    let rule ← rule.build setting rows
    return rule :: (← buildRules setting rows rest)

/-- Builds an argument. -/
def ArgumentDraft.build (setting : Setting) (rows : List (String × OpenRow)) :
    ArgumentDraft → Build (Argument Hatch)
  | .subject names => liftExcept do (← Argument.ofSubject setting.schema).chain names
  | .scopedTable table names => liftExcept do
    (← Argument.ofScoped table setting.schema).chain names
  | .asScoped a names => do
    let a ← a.build setting rows
    liftExcept do (← a.asScoped).chain names
  | .row row names => liftExcept do (← rowArgument rows row).chain names
  | .actor names => liftExcept ((Argument.ofActor setting.actor).captures names)
  | .asActor a => do return (← a.build setting rows).asActor
  | .pathRef p => return .pathRef p
  | .tableRef name => return .tableRef name
  | .actorRef a => return .actorRef a
  | .rule r => do return .rule (← r.build setting rows)
  | .value v => return .value v

/-- Builds arguments, from left to right. -/
def buildArguments (setting : Setting) (rows : List (String × OpenRow)) :
    List ArgumentDraft → Build (List (Argument Hatch))
  | [] => return []
  | a :: rest => do
    let a ← a.build setting rows
    return a :: (← buildArguments setting rows rest)

/-- Builds a field of a node. -/
def FieldDraft.build (setting : Setting) (rows : List (String × OpenRow)) :
    FieldDraft → Build (Field Hatch)
  | .kind v => do return .kind (← liftExcept (kindOfValue v))
  | .one a => do return .one (← a.build setting rows)
  | .tuple as => do return .tuple (← buildArguments setting rows as)

/-- Builds the fields of a node, from left to right. -/
def buildFields (setting : Setting) (rows : List (String × OpenRow)) :
    List (String × FieldDraft) → Build (Fields Hatch)
  | [] => return []
  | (name, field) :: rest => do
    let field ← field.build setting rows
    return (name, field) :: (← buildFields setting rows rest)

/-- Runs the body of a function that was called with an argument. -/
def BodyDraft.run (setting : Setting) (rows : List (String × OpenRow)) (hatch : Hatch)
    (a : Argument Hatch) : BodyDraft → Build (Rule Hatch)
  | .give rule => rule.build setting rows
  | .test names v yes no => do
    let found ← liftExcept do (← fieldChain a names).isValue v
    if found then yes.run setting rows hatch a else no.run setting rows hatch a
  | .fail message => throw (.raised message)
  | .again => return .expr (.function hatch hatch.name)

end

/-- Calls a function with an actor. -/
def Hatch.call (hatch : Hatch) (actor : Value) : Build (Rule Hatch) := do
  Build.logCall hatch.name
  hatch.body.run hatch.setting hatch.rows hatch (.value actor)

/-- What a function returns for an actor. -/
def Hatch.result (hatch : Hatch) (actor : Value) : Result (Rule Hatch) :=
  (hatch.call actor).outcome.2

/-- The functions that are called when a function is called with an actor. -/
def Hatch.calls (hatch : Hatch) (actor : Value) : List String := (hatch.call actor).outcome.1

end Clearance
