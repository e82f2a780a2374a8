/-
  The two questions that an application asks of a policy.

  * `Policy.decision` answers whether an actor may do something to what is at hand,
    `Policy.can` gives the bare answer and `Policy.check` insists on a yes;
  * `Policy.filter` gives the condition on the rows that an actor may do it to, and
    `Policy.restrict` puts the condition on a selection.
-/
import Clearance.Filter.Compile
import Clearance.Policy.Basic

namespace Clearance

open Sql

/-- The outcome of a decision. -/
structure Decision where
  allowed : Bool
  subject : String
  action : String
deriving DecidableEq, Repr

namespace Policy

variable [CharacterNames] {F : Type}

/-- Decides an action of a policy. -/
def decision (config : Config) (call : Meaning F) (p : Policy F) (action : String)
    (actor resources : Value) : Run F Decision := do
  let rule ← Run.ofResult (p.action action)
  let allowed ← rule.evaluate config call actor resources
  if config.logDecisions then Run.record (.decided p.subject action allowed)
  return ⟨allowed, p.subject, action⟩

/-- Whether an actor may do something. -/
def can (config : Config) (call : Meaning F) (p : Policy F) (action : String)
    (actor resources : Value) : Run F Bool := do
  return (← p.decision config call action actor resources).allowed

/-- Decides an action of a policy and fails if it is not allowed. -/
def check (config : Config) (call : Meaning F) (p : Policy F) (action : String)
    (actor resources : Value) : Run F Decision := do
  let decision ← p.decision config call action actor resources
  if decision.allowed then return decision
  else throw (.accessDenied p.subject action)

/-- The condition on the rows that an actor may do something to. -/
def filter (config : Config) (call : Meaning F) (p : Policy F) (action : String)
    (d : Declarations) (actor : Value) : Run F Clause := do
  let rule ← Run.ofResult (p.action action)
  let c ← rule.compile config call d actor
  Run.record (.compiled p.subject action)
  return c

/-- A selection of columns, restricted to the rows that an actor may do something to. -/
def restrict (config : Config) (call : Meaning F) (p : Policy F) (action : String)
    (d : Declarations) (actor : Value) (columns : List Column) : Run F Selection := do
  return ⟨columns, ← p.filter config call action d actor⟩

end Policy

end Clearance
