/-
  The categories of errors that the library reports about its own use.

  Every category has a name, a stable code, a default message and a suggested resolution,
  and a broader category that it belongs to.

  * `ErrorCategory.ofCode?` finds the category of a code; only the narrowest categories can
    be asked for by code;
  * `ErrorCategory.lineage` lists a category with the broader ones, up to the root.
-/
import Clearance.Value.Display

namespace Clearance

/-- A category of errors. -/
inductive ErrorCategory where
  | root
  | authoring
  | declaration
  | dataShape
  | pathResolution
  | invalidOperand
  | invalidExpression
  | uncorrelatedPredicate
  | unknownExpressionKind
  | invalidRule
  | functionDepthExceeded
  | expressionBudgetExceeded
  | policyComposition
  | unknownAction
  | undeclaredTable
  | undeclaredColumn
  | unsupportedPattern
  | missingActorField
  | accessDenied
deriving DecidableEq, Repr

namespace ErrorCategory

/-- All categories. -/
def all : List ErrorCategory :=
  [root, authoring, declaration, dataShape, pathResolution, invalidOperand, invalidExpression,
   uncorrelatedPredicate, unknownExpressionKind, invalidRule, functionDepthExceeded,
   expressionBudgetExceeded, policyComposition, unknownAction, undeclaredTable,
   undeclaredColumn, unsupportedPattern, missingActorField, accessDenied]

/-- The name of a category. -/
def name : ErrorCategory → String
  | root => "TypedPolicyError"
  | authoring => "AuthoringError"
  | declaration => "DeclarationError"
  | dataShape => "DataShapeError"
  | pathResolution => "PathResolutionError"
  | invalidOperand => "InvalidOperandError"
  | invalidExpression => "InvalidExpressionError"
  | uncorrelatedPredicate => "UncorrelatedPredicateError"
  | unknownExpressionKind => "UnknownExpressionKindError"
  | invalidRule => "InvalidRuleError"
  | functionDepthExceeded => "FunctionDepthExceededError"
  | expressionBudgetExceeded => "ExpressionBudgetExceeded"
  | policyComposition => "PolicyCompositionError"
  | unknownAction => "UnknownActionError"
  | undeclaredTable => "UndeclaredTableError"
  | undeclaredColumn => "UndeclaredColumnError"
  | unsupportedPattern => "UnsupportedPatternError"
  | missingActorField => "MissingActorFieldError"
  | accessDenied => "AccessDenied"

/-- The code of a category. -/
def code : ErrorCategory → String
  | root => "TP-E000"
  | authoring => "TP-E1XX"
  | declaration => "TP-E2XX"
  | dataShape => "TP-E3XX"
  | pathResolution => "TP-E100"
  | invalidOperand => "TP-E101"
  | invalidExpression => "TP-E102"
  | uncorrelatedPredicate => "TP-E103"
  | unknownExpressionKind => "TP-E104"
  | invalidRule => "TP-E105"
  | functionDepthExceeded => "TP-E106"
  | expressionBudgetExceeded => "TP-E107"
  | policyComposition => "TP-E108"
  | unknownAction => "TP-E109"
  | undeclaredTable => "TP-E200"
  | undeclaredColumn => "TP-E201"
  | unsupportedPattern => "TP-E202"
  | missingActorField => "TP-E300"
  | accessDenied => "TP-E400"

/-- The message of an error that comes without one. -/
def defaultMessage : ErrorCategory → String
  | root | authoring | declaration | dataShape => "Unknown typed-policy error"
  | pathResolution => "Path could not be resolved to a table/column reference"
  | invalidOperand => "Operator received an unsupported operand"
  | invalidExpression => "Expression node has an invalid shape"
  | uncorrelatedPredicate => "Related-table predicate is not correlated with the outer subject"
  | unknownExpressionKind => "Unknown expression kind"
  | invalidRule => "Rule must be a boolean, an expression or a function of the actor"
  | functionDepthExceeded => "Escape-hatch function nesting exceeded the configured depth"
  | expressionBudgetExceeded => "Expression node budget exceeded"
  | policyComposition => "Policy composition requires at least one policy"
  | unknownAction => "Action is not defined by the policy"
  | undeclaredTable => "Table is not declared in the table mapping"
  | undeclaredColumn => "Column is not declared in the table mapping"
  | unsupportedPattern => "Pattern cannot be translated to a LIKE expression"
  | missingActorField => "Missing required actor field"
  | accessDenied => "Access denied"

/-- What to do about an error, unless it says so itself. -/
def defaultResolution : ErrorCategory → String
  | root | authoring | declaration | dataShape | policyComposition | accessDenied => ""
  | pathResolution =>
    "Build paths through subject_proxy()/scoped_proxy() as " ++
      "'subject.<table>.<column>'; deeper nesting is not supported."
  | invalidOperand =>
    "Pass a subject path, an actor value or a primitive " ++
      "(str, int, float, bool, None, Decimal, date/time, UUID)."
  | invalidExpression => "Construct expressions through the operator functions."
  | uncorrelatedPredicate =>
    "Reference at least one outer subject path inside the predicate, " ++
      "e.g. eq(c.post_id, subject.post.id)."
  | unknownExpressionKind =>
    "Expressions must be built with the operator library; an unknown " ++
      "node indicates a corrupted or hand-built tree."
  | invalidRule => "Return True/False or an expression from escape-hatch functions."
  | functionDepthExceeded =>
    "Check for functions that keep returning further functions, or " ++
      "raise EngineConfig.max_function_depth."
  | expressionBudgetExceeded => "Simplify the rule or raise EngineConfig.max_expression_nodes."
  | unknownAction => "Use one of the action names declared in the policy."
  | undeclaredTable => "Add the table and its columns to the mapping passed to compile."
  | undeclaredColumn => "Declare the column under its table in the mapping passed to compile."
  | unsupportedPattern =>
    "Simplify the pattern or use regex_strategy='auto' / 'native' " ++
      "to fall back to the backend regex operator."
  | missingActorField =>
    "Populate the field on the actor, either under the tenant " ++
      "namespace (actor.user.<field>) or at the top level."

/-- The next broader category. -/
def broader? : ErrorCategory → Option ErrorCategory
  | root => none
  | authoring | declaration | dataShape | accessDenied => some root
  | undeclaredTable | undeclaredColumn | unsupportedPattern => some declaration
  | missingActorField => some dataShape
  | _ => some authoring

/-- Whether a category has categories under it. -/
def isBroad : ErrorCategory → Bool
  | root | authoring | declaration | dataShape => true
  | _ => false

/-- A category with the broader ones, the narrowest first. -/
def lineage (c : ErrorCategory) : List ErrorCategory :=
  match c.broader? with
  | none => [c]
  | some root => [c, root]
  | some b => [c, b, root]

/-- The category of a name. -/
def ofName? (s : String) : Option ErrorCategory := all.find? fun c => c.name == s

/-- The category of a code; the broad categories are not raised by code. -/
def ofCode? (s : String) : Option ErrorCategory := all.find? fun c => !c.isBroad && c.code == s

end ErrorCategory

/-- An error report: what is told about an error. -/
structure ErrorReport where
  category : ErrorCategory
  message : String
  details : List (String × Value)
  resolution : String

namespace ErrorReport

/-- A report in which what is not given is the category's own. -/
def make (category : ErrorCategory) (message : Option String) (details : List (String × Value))
    (resolution : Option String) : ErrorReport where
  category := category
  message := message.getD category.defaultMessage
  details := details
  resolution := resolution.getD category.defaultResolution

/-- The report of a code; an empty message counts as none. -/
def ofCode? (code : String) (message : Option String) : Option ErrorReport :=
  (ErrorCategory.ofCode? code).map fun c => make c (message.filter (!·.isEmpty)) [] none

/-- The report as data, without what is empty. -/
def payload (r : ErrorReport) : Value :=
  .dict [("error", .dict ([("code", .str r.category.code), ("message", .str r.message)] ++
    (if r.details.isEmpty then [] else [("detail", .dict r.details)]) ++
    (if r.resolution.isEmpty then [] else [("resolution", .str r.resolution)])))]

/-- The text of a report in a message. -/
def display (r : ErrorReport) : String :=
  bracketed (r.category.name ++ "(")
    ["code=" ++ Text.quoted r.category.code, "message=" ++ Text.quoted r.message] ")"

end ErrorReport

end Clearance
