/-
  What can go wrong in building, deciding and compiling rules.

  An `Error` names a cause with what is needed to tell about it.  Most causes belong to a
  category of the library; the others are faults of the data or of a caller that show
  through as they are, and have a name of their own.

  * `Error.category?`, `Error.name` and `Error.message?` say what is reported;
  * `Error.details` are the facts that go with the errors of a category.
-/
import Clearance.Error.Category
import Clearance.Rule.Kind
import Clearance.Rule.Reference
import Clearance.Pattern.Fault

namespace Clearance

/-- The names of some things, in order, each once. -/
def sortedNames (names : List String) : List String :=
  (names.mergeSort fun a b => a ≤ b).eraseReps

/-- Names as a list of texts. -/
def namesValue (names : List String) : Value := .list (names.map Value.str)

/-- Names as the text of a list. -/
def namesText (names : List String) : String := bracketed "[" (names.map Text.quoted) "]"

/-- The cause of an error. -/
inductive Error where
  -- Paths.
  | underivableSchema (shown : String)
  | unknownTable (table : String) (known : List String)
  | unknownColumn (table column : String) (known : List String)
  | pathTooDeep (table column name : String)
  | stringPath (text : String)
  | notPath (shown : String)
  | tableAsColumn (table : String)
  | tableAsValue (shown : String)
  | notValue (shown typeName : String)
  | columnAsTable (path : String)
  /-- A scoped path outside related nodes over its table, with the open tables if known. -/
  | strayPath (path : PathRef) (opened : Option (List String))
  -- Operands.
  | actorNotScalar (source role typeName : String)
  | unsupportedOperand (role typeName : String)
  | notText (role typeName : String)
  | notSequence (typeName : String)
  | itemNotScalar (typeName : String)
  | badPattern (pattern : String) (error : Pattern.PatternError)
  | notTable (kind : Kind) (shown : String)
  | notActorValue (typeName : String)
  -- Nodes.
  | pathRequired (kind : Kind) (role typeName : String)
  | operandRequired (kind : Kind) (role typeName : String)
  | wrongKind (kind : Kind) (family : String)
  | unsupportedFlags (flags : List Char)
  /-- A node of which a part has the wrong shape; the text says what is required. -/
  | malformed (requirement : String)
  -- Rules.
  | uncorrelated (kind : Kind) (table : String) (hasFunction : Bool)
  | unknownNode (shown typeName : String)
  | notRule (typeName : String)
  | badResult (description typeName : String)
  | depthExceeded (description : String) (limit : Nat)
  | budgetExceeded (limit : Nat)
  -- Policies.
  | badActionRule (action typeName : String)
  | badSubject
  | noPolicies (combinator : String)
  | unknownAction (subject action : String) (defined : List String)
  | accessDenied (subject action : String)
  -- Declarations.
  | undeclaredTable (table : String) (declared : List String)
  | unboundTable (declared : List String)
  | undeclaredColumn (table column : String) (declared : List String)
  | missingColumns (missing available : List String)
  | unsupportedPattern (pattern flags : String)
  -- Actors.
  | missingField (source : String)
  | missingTenantField (column «namespace» : String)
  -- Faults that show through.
  | notCallable (typeName : String)
  | notMapping (typeName : String)
  | notIterable (typeName : String)
  | unhashable (typeName : String)
  | notMappable (shown : String)
  | noAttribute (typeName name : String)
  /-- A reserved attribute of a proxy. -/
  | reservedAttribute (name : String)
  | missingKey (key : String)
  | notKind (shown : String)
  | raised (message : String)
  | patternFault (pattern : String) (error : Pattern.PatternError)
  | invalidOperation
  | statementWithoutTables
  | integerTooLarge
  /-- A failure in the database while a statement runs. -/
  | databaseFailure
  /-- A row whose key is missing or taken. -/
  | keyViolation
  | noSuchPolicy (name : String)

namespace Error

/-- The category of an error, if it has one. -/
def category? : Error → Option ErrorCategory
  | underivableSchema _ | unknownTable _ _ | unknownColumn _ _ _ | pathTooDeep _ _ _
  | stringPath _ | notPath _ | tableAsColumn _ | tableAsValue _ | notValue _ _
  | columnAsTable _ | strayPath _ _ => some .pathResolution
  | actorNotScalar _ _ _ | unsupportedOperand _ _ | notText _ _ | notSequence _
  | itemNotScalar _ | badPattern _ _ | notTable _ _ | notActorValue _ => some .invalidOperand
  | pathRequired _ _ _ | operandRequired _ _ _ | wrongKind _ _ | unsupportedFlags _
  | malformed _ => some .invalidExpression
  | uncorrelated _ _ _ => some .uncorrelatedPredicate
  | unknownNode _ _ => some .unknownExpressionKind
  | notRule _ | badResult _ _ | badActionRule _ _ | badSubject => some .invalidRule
  | depthExceeded _ _ => some .functionDepthExceeded
  | budgetExceeded _ => some .expressionBudgetExceeded
  | noPolicies _ => some .policyComposition
  | unknownAction _ _ _ => some .unknownAction
  | accessDenied _ _ => some .accessDenied
  | undeclaredTable _ _ | unboundTable _ => some .undeclaredTable
  | undeclaredColumn _ _ _ | missingColumns _ _ => some .undeclaredColumn
  | unsupportedPattern _ _ => some .unsupportedPattern
  | missingField _ | missingTenantField _ _ => some .missingActorField
  | _ => none

/-- The name that a fault in a pattern is reported under. -/
def patternFaultName (e : Pattern.PatternError) : String :=
  match e.fault with
  | .countTooLarge => "OverflowError"
  | .exclusiveModes => "ValueError"
  | _ => "error"

/-- The name of an error without a category. -/
def foreignName : Error → String
  | notCallable _ | notMapping _ | notIterable _ | unhashable _ | notMappable _ => "TypeError"
  | noAttribute _ _ | reservedAttribute _ => "AttributeError"
  | missingKey _ => "KeyError"
  | notKind _ | raised _ => "ValueError"
  | patternFault _ e => patternFaultName e
  | invalidOperation => "InvalidOperation"
  | statementWithoutTables => "InvalidRequestError"
  | integerTooLarge => "OverflowError"
  | databaseFailure => "OperationalError"
  | keyViolation => "IntegrityError"
  | noSuchPolicy _ => "NoSuchPolicy"
  | _ => ""

/-- The name of an error. -/
def name (e : Error) : String :=
  match e.category? with
  | some c => c.name
  | none => e.foreignName

/-- The function's name as it is shown in errors. -/
def functionLabel (description : String) : String :=
  Text.quoted (if description.isEmpty then "<anonymous>" else description)

/-- The message of an error, if one is reported. -/
def message? : Error → Option String
  | underivableSchema shown => some ("Cannot derive a schema from " ++ shown)
  | unknownTable table known =>
    some ("Unknown table '" ++ table ++ "'. Known tables: " ++ ", ".intercalate known)
  | unknownColumn table column known =>
    some ("Unknown column '" ++ table ++ "." ++ column ++ "'. Known columns: " ++
      ", ".intercalate known)
  | pathTooDeep table column name =>
    some ("Cannot access '" ++ name ++ "' on '" ++ table ++ "." ++ column ++
      "': paths are limited to table.column")
  | stringPath text =>
    some ("Cannot normalize string path " ++ Text.quoted text ++
      ": build paths through a subject proxy")
  | notPath shown => some ("Cannot normalize path: " ++ shown)
  | tableAsColumn table =>
    some ("'" ++ table ++ "' is a table, not a column; use subject." ++ table ++ ".<column>")
  | tableAsValue shown => some ("Table " ++ shown ++ " cannot be used as a value")
  | notValue shown _ => some ("Cannot normalize value: " ++ shown)
  | columnAsTable path => some ("Expected a table, got column path " ++ path)
  | strayPath path _ =>
    some ("Scoped path '" ++ path.text ++ "' is used outside exists/count/has_many over '" ++
      path.table ++ "'")
  | actorNotScalar source role typeName =>
    some ("Actor value " ++ source ++ " used as " ++ role ++ " is a " ++ typeName ++
      ", not a scalar; use in_array() to test membership in a sequence")
  | unsupportedOperand role typeName => some ("Unsupported " ++ role ++ ": " ++ typeName)
  | notText role typeName => some (role ++ " must be a str, got " ++ typeName)
  | notSequence typeName => some ("in_array requires a sequence of values, got " ++ typeName)
  | itemNotScalar typeName => some ("in_array values must be primitives, got " ++ typeName)
  | badPattern pattern error =>
    some ("Invalid regular expression " ++ Text.quoted pattern ++ ": " ++ error.message pattern)
  | notTable kind shown =>
    some (kind.name ++ " requires a table (e.g. subject.comments), got " ++ shown)
  | notActorValue _ =>
    some "belongs_to_tenant requires an actor value (e.g. actor.user.org_id)"
  | pathRequired kind role typeName =>
    some (kind.name ++ " requires a subject path as " ++ role ++ ", got " ++ typeName)
  | operandRequired kind role typeName =>
    some (kind.name ++ " requires a path, actor value or primitive as " ++ role ++ ", got " ++
      typeName)
  | wrongKind kind family => some ("'" ++ kind.name ++ "' is not a " ++ family ++ " kind")
  | unsupportedFlags flags =>
    some ("matches does not support flags " ++
      namesText (flags.map fun c => String.ofList [c]))
  | malformed requirement => some requirement
  | uncorrelated kind table hasFunction =>
    some (kind.name ++ "(" ++ table ++ ", ...) " ++
      if hasFunction then
        "has no correlation outside escape-hatch functions; functions are not inspected, so " ++
          "the correlating comparison must be written as an expression"
      else "never references a path outside '" ++ table ++ "'")
  | unknownNode shown _ => some ("Unknown expression kind: " ++ shown)
  | notRule typeName => some ("Cannot use " ++ typeName ++ " as a rule")
  | badResult description typeName =>
    some ("Function " ++ functionLabel description ++ " returned " ++ typeName ++
      "; expected bool or an expression")
  | depthExceeded description limit =>
    some ("Escape-hatch function " ++ functionLabel description ++ " nested deeper than " ++
      toString limit)
  | budgetExceeded limit =>
    some ("Visited more than " ++ toString limit ++ " expression nodes")
  | badActionRule action typeName =>
    some ("Action '" ++ action ++ "' has an invalid rule of type " ++ typeName)
  | badSubject => some "Policy subject must be a non-empty string"
  | noPolicies combinator => some (combinator ++ "_policies requires at least one policy")
  | unknownAction subject action defined =>
    some ("Policy '" ++ subject ++ "' has no action '" ++ action ++ "'. Defined actions: " ++
      ", ".intercalate defined)
  | accessDenied subject action =>
    some ("Action '" ++ action ++ "' on '" ++ subject ++ "' is not allowed")
  | undeclaredTable table declared =>
    some ("Table '" ++ table ++ "' is not declared; declared tables: " ++ namesText declared)
  | unboundTable _ => some "Cannot derive a FROM clause: the table declares no bound columns"
  | undeclaredColumn table column declared =>
    some ("Column '" ++ column ++ "' is not declared on table '" ++ table ++
      "'; declared columns: " ++ namesText declared)
  | unsupportedPattern pattern flags =>
    some ("Pattern " ++ Text.quoted pattern ++ " with flags " ++ Text.quoted flags ++
      " has no LIKE translation")
  | missingField source => some ("Missing required actor field '" ++ source ++ "'")
  | missingTenantField column space =>
    some ("Missing required actor field '" ++ column ++ "' (looked under 'actor." ++ space ++
      "." ++ column ++ "' and 'actor." ++ column ++ "')")
  | notCallable typeName => some ("'" ++ typeName ++ "' object is not callable")
  | notMapping typeName => some ("'" ++ typeName ++ "' object is not a mapping")
  | notIterable typeName => some ("'" ++ typeName ++ "' object is not iterable")
  | unhashable typeName => some ("unhashable type: '" ++ typeName ++ "'")
  | notMappable shown =>
    some ("Cannot map " ++ shown ++ ": expected a Table or an ORM mapped class")
  | noAttribute typeName name =>
    some ("'" ++ typeName ++ "' object has no attribute '" ++ name ++ "'")
  | reservedAttribute name => some name
  | missingKey key => some (Text.quoted key)
  | notKind shown => some (shown ++ " is not a valid ExprKind")
  | raised message => some message
  | patternFault pattern error => some (error.message pattern)
  | invalidOperation => some "[<class 'decimal.InvalidOperation'>]"
  | integerTooLarge => some "Python int too large to convert to SQLite INTEGER"
  | noSuchPolicy name => some name
  | missingColumns _ _ | statementWithoutTables | databaseFailure | keyViolation => none

/-- The facts that go with an error. -/
def details : Error → List (String × Value)
  | underivableSchema shown => [("schema", .str shown)]
  | unknownTable table known => [("table", .str table), ("known", namesValue known)]
  | unknownColumn table column known =>
    [("table", .str table), ("column", .str column), ("known", namesValue known)]
  | pathTooDeep table column name => [("path", .str (table ++ "." ++ column ++ "." ++ name))]
  | stringPath text => [("input", .str text)]
  | notPath shown | tableAsValue shown => [("input", .str shown)]
  | tableAsColumn table => [("input", .str table)]
  | notValue shown typeName => [("input", .str shown), ("type", .str typeName)]
  | columnAsTable path => [("input", .str path)]
  | strayPath path opened =>
    [("table", .str path.table), ("column", .str path.column)] ++
      (opened.map fun names => [("open", namesValue names)]).getD []
  | actorNotScalar source role typeName =>
    [("role", .str role), ("source", .str source), ("type", .str typeName)]
  | unsupportedOperand role typeName => [("role", .str role), ("type", .str typeName)]
  | notText role _ => [("role", .str role)]
  | notSequence typeName | itemNotScalar typeName | notActorValue typeName =>
    [("type", .str typeName)]
  | badPattern pattern _ => [("pattern", .str pattern)]
  | notTable kind _ => [("kind", .str kind.name)]
  | pathRequired kind role _ | operandRequired kind role _ =>
    [("kind", .str kind.name), ("role", .str role)]
  | unsupportedFlags _ => [("supported", namesValue ["i", "m", "s", "x"])]
  | uncorrelated _ table _ => [("table", .str table)]
  | unknownNode _ typeName | notRule typeName | badResult _ typeName =>
    [("type", .str typeName)]
  | depthExceeded _ limit => [("max_function_depth", .int limit)]
  | budgetExceeded limit => [("limit", .int limit)]
  | badActionRule action typeName => [("action", .str action), ("type", .str typeName)]
  | unknownAction subject action _ | accessDenied subject action =>
    [("subject", .str subject), ("action", .str action)]
  | undeclaredTable table declared =>
    [("table", .str table), ("declared", namesValue declared)]
  | unboundTable declared => [("declared", namesValue declared)]
  | undeclaredColumn table column declared =>
    [("table", .str table), ("column", .str column), ("declared", namesValue declared)]
  | missingColumns missing available =>
    [("missing", namesValue missing), ("available", namesValue available)]
  | unsupportedPattern pattern flags => [("pattern", .str pattern), ("flags", .str flags)]
  | missingField source => [("path", .str source)]
  | missingTenantField column space =>
    [("column", .str column), ("namespace", .str space)]
  | _ => []

/-- A comparison without an answer, as an error. -/
def ofInvalidOperation : InvalidOperation → Error
  | .comparison => .invalidOperation

end Error

/-- The outcome of a step that can fail. -/
abbrev Result (α : Type) := Except Error α

/-- A comparison as a step that can fail. -/
def Result.ofComparison {α : Type} : Except InvalidOperation α → Result α
  | .ok a => .ok a
  | .error e => .error (.ofInvalidOperation e)

end Clearance
