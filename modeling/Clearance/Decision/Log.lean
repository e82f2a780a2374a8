/-
  What is logged of a run.

  * `LogEntry` is a line of the log, `Event.entry` the line of an event.
-/
import Clearance.Decision.Run

namespace Clearance

/-- The severity of a line of the log. -/
inductive LogLevel where
  | debug | info
deriving DecidableEq, Repr

/-- The name of a severity. -/
def LogLevel.name : LogLevel → String
  | debug => "DEBUG"
  | info => "INFO"

/-- A line of the log. -/
structure LogEntry where
  /-- The part of the library that has something to tell. -/
  source : String
  level : LogLevel
  message : String
deriving DecidableEq, Repr

/-- The line of an event. -/
def Event.entry {F : Type} : Event F → LogEntry
  | expanded _ description depth =>
    ⟨"typed_policy.core.interpreter", .debug,
      "Expanding function " ++ Text.quoted description ++ " at depth " ++ toString depth⟩
  | patternAsLike pattern =>
    ⟨"typed_policy.compilation.patterns", .debug,
      "Compiling matches(" ++ Text.quoted pattern ++ ") as LIKE"⟩
  | patternNative pattern =>
    ⟨"typed_policy.compilation.patterns", .debug,
      "Compiling matches(" ++ Text.quoted pattern ++ ") with the backend regex operator"⟩
  | skipped action subject kind =>
    ⟨"typed_policy.policy.container", .debug,
      "Skipping function rule for action " ++ Text.quoted action ++ " of policy " ++
        Text.quoted subject ++ " in " ++ kind.kind.name ++ "_policies"⟩
  | decided subject action allowed =>
    ⟨"typed_policy.engine", .info,
      "Decision " ++ subject ++ "." ++ action ++ ": " ++ if allowed then "allow" else "deny"⟩
  | compiled subject action =>
    ⟨"typed_policy.engine", .debug,
      "Compiled " ++ subject ++ "." ++ action ++ " into a filter predicate"⟩

/-- The log of a run. -/
def Tally.log {F : Type} (t : Tally F) : List LogEntry := t.events.reverse.map Event.entry

/-- The functions that a run called, in order. -/
def Tally.expanded {F : Type} (t : Tally F) : List F :=
  t.events.reverse.filterMap fun e =>
    match e with
    | .expanded fn _ _ => some fn
    | _ => none

end Clearance
