/-
  Calls of the operators, with arguments of any kind in any position.

  An operator checks its arguments when it is called, so a text, a rule or a number may be
  missing where one is wanted and something else stand in its place: a record of the actor, a
  captured value, a table.  The operators on such arguments finish what they are given and go on
  as on plain values and rules.

  * `Operator.textMatchWith`, `searchWith` and so on are the operators whose arguments need not
    be values or rules; `textMatchWith_value` and so on say that on these they are the operators
    as they are;
  * `Call` is a call whose arguments are given, read off the actor, or calls in turn, and
    `Call.run` runs it for an actor.
-/
import Clearance.Draft.Operator

namespace Clearance

variable {F : Type}

/-! ## Arguments -/

/-- Whether a scalar counts for nothing where something may be left out. -/
def Scalar.isBlank : Scalar → Bool
  | .null | .bool false | .int 0 | .float (.finite _ 0 _) | .decimal (.finite ⟨_, 0, _⟩)
  | .str "" => true
  | _ => false

/-- Whether a value counts for nothing where something may be left out. -/
def Value.isBlank : Value → Bool
  | .scalar s => s.isBlank
  | .bytes [] | .list [] | .tuple [] | .set [] | .dict [] => true
  | _ => false

namespace Operator

/-- A text argument. -/
def asText (a : Argument F) (role : String) : Result String :=
  match a with
  | .value v => text v role
  | a => .error (.notText role a.typeName)

/-- An argument that has to be a rule, as an expression. -/
def asExpr : Argument F → Result (Expr F)
  | .rule r => r.toExpr
  | a => .error (.notRule a.typeName)

/-- One of the constants among which a column is looked for. -/
def asScalar : Argument F → Result Scalar
  | .value (.scalar s) => .ok s
  | a => .error (.itemNotScalar a.typeName)

/-- The value that an argument is.  What is none is refused like null wherever a value of some
    type is wanted. -/
def asValue : Argument F → Value
  | .value v => v
  | _ => .null

/-- The description of a function; nothing is left of one that counts for nothing. -/
def asDescription : Argument F → String
  | .value (.str s) => s
  | .value v => if v.isBlank then "" else v.display
  | a => a.display

/-- The predicate on the rows of a table: an expression as it is, or what a function returns
    for the row at hand. -/
def asPredicate (apply : F → Argument F → Result (Argument F)) (row : Argument F) :
    Argument F → Result (Argument F)
  | .rule (.expr e) => .ok (.rule (.expr e))
  | .rule (.function fn _) => apply fn row
  | a => .error (.notCallable a.qualifiedTypeName)

/-! ## Operators -/

/-- Tests a column against a text. -/
def textMatchWith (test : TextTest) (path text : Argument F) : Result (Expr F) := do
  let path ← path.path
  textMatch test (.pathRef path) (.str (← asText text (textRole test)))

/-- Tests a column against a pattern. -/
def searchWith [CharacterNames] (path pattern letters : Argument F) : Result (Expr F) := do
  let path ← path.path
  let pattern ← asText pattern "pattern"
  let letters ← asText letters "flags"
  search (.pathRef path) (.str pattern) (.str letters)

/-- Tests that a column is one of some constants that are written out. -/
def inArrayOf (path : Argument F) (items : List (Argument F)) : Result (Expr F) := do
  let constants ← items.mapM asScalar
  inArray path (.value (.list (constants.map .scalar)))

/-- Negates a rule. -/
def negationWith (rule : Argument F) : Result (Expr F) := do
  negation (.expr (← asExpr rule))

/-- Joins rules. -/
def junctionWith (kind : Junction) (rules : List (Argument F)) : Result (Expr F) := do
  junction kind ((← rules.mapM asExpr).map .expr)

/-- A constant. -/
def literalWith (value : Argument F) : Result (Expr F) := literal (asValue value)

/-- A function node. -/
def functionWith (fn description : Argument F) : Result (Expr F) :=
  match fn with
  | .rule r => function r (asDescription description)
  | _ => .error (.malformed "function requires a callable")

/-- Tests how many rows of a table satisfy a predicate. -/
def relatedWith (kind : RelatedKind) (table : String) (predicate minCount : Argument F) :
    Result (Expr F) := do
  related kind table (.expr (← asExpr predicate)) (asValue minCount)

/-! ### On plain values and rules -/

theorem asText_value (v : Value) (role : String) :
    asText (.value v : Argument F) role = text v role := rfl

theorem asExpr_rule (r : Rule F) : asExpr (.rule r) = r.toExpr := rfl

theorem textMatchWith_value (test : TextTest) (path : Argument F) (v : Value) :
    textMatchWith test path (.value v) = textMatch test path v := by
  rw [textMatchWith, textMatch]
  cases path.path with
  | error => rfl
  | ok p =>
    rw [asText_value]
    cases text v (textRole test) <;> rfl

theorem searchWith_value [CharacterNames] (path : Argument F) (pattern letters : Value) :
    searchWith path (.value pattern) (.value letters) = search path pattern letters := by
  rw [searchWith, search]
  cases path.path with
  | error => rfl
  | ok p =>
    rw [asText_value, asText_value]
    cases text pattern "pattern" with
    | error => rfl
    | ok s => cases text letters "flags" <;> rfl

theorem negationWith_rule (r : Rule F) : negationWith (.rule r) = negation r := by
  rw [negationWith, negation, asExpr_rule]
  cases r.toExpr <;> rfl

theorem relatedWith_rule (kind : RelatedKind) (table : String) (r : Rule F) (minCount : Value) :
    relatedWith kind table (.rule r) (.value minCount) = related kind table r minCount := by
  rw [relatedWith, related, asExpr_rule]
  cases r.toExpr <;> rfl

end Operator

/-! ## Calls -/

/-- A call of an operator, or an argument of one. -/
inductive Call (F : Type) where
  /-- Fields named on an argument that is given. -/
  | given (a : Argument F) (names : List String)
  /-- Fields named on the actor. -/
  | actor (names : List String)
  | compare (op : CompareOp) (left right : Call F)
  | between (path low high : Call F)
  | inArray (path values : Call F)
  /-- A test among constants that are written out. -/
  | inArrayOf (path : Call F) (items : List (Call F))
  | nullCheck (test : NullTest) (path : Call F)
  | textMatch (test : TextTest) (path text : Call F)
  | search (path pattern flags : Call F)
  | tenantScoped (path : Call F)
  | belongsToTenant (actorValue path : Call F)
  | literal (value : Call F)
  | negation (rule : Call F)
  | junction (kind : Junction) (rules : List (Call F))
  | function (fn description : Call F)
  | related (kind : RelatedKind) (table predicate minCount : Call F)
  /-- A test of related rows with a predicate that is written for the row at hand. -/
  | relatedRow (kind : RelatedKind) (table : Call F) (predicate : Argument F → Call F)
      (minCount : Call F)

variable [CharacterNames] (apply : F → Argument F → Result (Argument F))

mutual

/-- Runs a call for an actor, its arguments from left to right. -/
def Call.run (actor : Value) : Call F → Result (Argument F)
  | .given a names => a.chain names
  | .actor names => (Argument.ofActor actor).captures names
  | .compare op left right => do
    let left ← left.run actor
    let right ← right.run actor
    return .rule (.expr (← Operator.compare op left right))
  | .between path low high => do
    let path ← path.run actor
    let low ← low.run actor
    let high ← high.run actor
    return .rule (.expr (← Operator.between path low high))
  | .inArray path values => do
    let path ← path.run actor
    let values ← values.run actor
    return .rule (.expr (← Operator.inArray path values))
  | .inArrayOf path items => do
    let path ← path.run actor
    let items ← Call.runAll actor items
    return .rule (.expr (← Operator.inArrayOf path items))
  | .nullCheck test path => do
    return .rule (.expr (← Operator.nullCheck test (← path.run actor)))
  | .textMatch test path text => do
    let path ← path.run actor
    let text ← text.run actor
    return .rule (.expr (← Operator.textMatchWith test path text))
  | .search path pattern flags => do
    let path ← path.run actor
    let pattern ← pattern.run actor
    let flags ← flags.run actor
    return .rule (.expr (← Operator.searchWith path pattern flags))
  | .tenantScoped path => do
    return .rule (.expr (← Operator.tenantScoped (← path.run actor)))
  | .belongsToTenant actorValue path => do
    let actorValue ← actorValue.run actor
    let path ← path.run actor
    return .rule (.expr (← Operator.belongsToTenant actorValue path))
  | .literal value => do
    return .rule (.expr (← Operator.literalWith (← value.run actor)))
  | .negation rule => do
    return .rule (.expr (← Operator.negationWith (← rule.run actor)))
  | .junction kind rules => do
    return .rule (.expr (← Operator.junctionWith kind (← Call.runAll actor rules)))
  | .function fn description => do
    let fn ← fn.run actor
    let description ← description.run actor
    return .rule (.expr (← Operator.functionWith fn description))
  | .related kind table predicate minCount => do
    let table ← table.run actor
    let predicate ← predicate.run actor
    let minCount ← minCount.run actor
    let (name, row) ← Operator.openTable kind table
    let predicate ← Operator.asPredicate apply row predicate
    return .rule (.expr (← Operator.relatedWith kind name predicate minCount))
  | .relatedRow kind table predicate minCount => do
    let table ← table.run actor
    let minCount ← minCount.run actor
    let (name, row) ← Operator.openTable kind table
    let predicate ← (predicate row).run actor
    return .rule (.expr (← Operator.relatedWith kind name predicate minCount))

/-- Runs calls, from left to right. -/
def Call.runAll (actor : Value) : List (Call F) → Result (List (Argument F))
  | [] => .ok []
  | c :: rest => do
    let a ← c.run actor
    return a :: (← Call.runAll actor rest)

end

end Clearance
