/-
  Policies: rules by the name of the action that they govern.

  * `Policy.ofActions` makes a policy for a subject, `Policy.extend` narrows one down: a rule
    for an action that has one already is joined to it by conjunction;
  * `Policy.join` joins policies by conjunction or disjunction, action by action; bare
    functions are left out of it;
  * `Policy.action` finds the rule of an action, `Policy.equal` compares policies.
-/
import Clearance.Decision.Log
import Clearance.Rule.Equality
import Clearance.Draft.Operator

namespace Clearance

/-- A policy. -/
structure Policy (F : Type) where
  /-- What the policy is about. -/
  subject : String
  /-- The rules by action, in the order in which the actions were defined. -/
  actions : List (String × Rule F)

namespace Policy

variable {F : Type}

/-- Whether a rule may stand in a policy. -/
def isRule : Rule F → Bool
  | .expr _ | .function _ _ | .value (.bool _) => true
  | .value _ => false

/-- Admits rules that may stand in a policy. -/
def checkActions (actions : List (String × Rule F)) : Result Unit :=
  match actions.find? fun a => !isRule a.2 with
  | some a => .error (.badActionRule a.1 a.2.typeName)
  | none => .ok ()

/-- A policy with a subject and rules. -/
def ofActions (subject : Value) (actions : List (String × Rule F)) : Result (Policy F) := do
  match subject with
  | .str s =>
    if s.isEmpty then throw .badSubject
    let actions := Keyed.ofPairs actions
    checkActions actions
    return ⟨s, actions⟩
  | _ => throw .badSubject

/-- The rule of an action, if there is one. -/
def action? (p : Policy F) (name : String) : Option (Rule F) := p.actions.lookup name

/-- The rule of an action. -/
def action (p : Policy F) (name : String) : Result (Rule F) :=
  match p.action? name with
  | some r => .ok r
  | none => .error (.unknownAction p.subject name (sortedNames (p.actions.map Prod.fst)))

/-- Whether a policy defines an action. -/
def defines (p : Policy F) (name : String) : Bool := (p.action? name).isSome

/-- The text of a policy in a message. -/
def display (p : Policy F) : String :=
  "Policy(" ++ Text.quoted p.subject ++ ", actions=" ++
    namesText (sortedNames (p.actions.map Prod.fst)) ++ ")"

/-- Whether two policies are equal; the order of the actions does not count. -/
def equal [BEq F] (p q : Policy F) : Except InvalidOperation Bool :=
  if p.subject = q.subject ∧ p.actions.length = q.actions.length then
    p.actions.foldlM (fun same a => do
      if !same then return false
      match q.action? a.1 with
      | none => return false
      | some r => a.2.equal r) true
  else .ok false

/-! ## Extension -/

/-- The rules with one more, joined to the rule of the same action if there is one. -/
def addRule (actions : List (String × Rule F)) (name : String) (r : Rule F) :
    Result (List (String × Rule F)) :=
  match actions.lookup name with
  | some old => do
    return Keyed.setKey name (.expr (← Operator.junction .and [old, r])) actions
  | none => .ok (Keyed.setKey name r actions)

/-- A policy with further rules, and with another subject if one is given. -/
def extend (p : Policy F) (actions : List (String × Rule F)) (subject : Option Value) :
    Result (Policy F) := do
  let merged ← (Keyed.ofPairs actions).foldlM (fun merged a => addRule merged a.1 a.2) p.actions
  ofActions (subject.getD (.str p.subject)) merged

/-! ## Joining -/

/-- The actions of some policies, in the order in which they first appear. -/
def actionNames (ps : List (Policy F)) : List String :=
  (Keyed.ofPairs (ps.flatMap fun p => p.actions.map fun a => (a.1, ()))).map Prod.fst

/-- The rules of an action that are expressions or truth values; a bare function is
    skipped. -/
def declarativeRules (kind : Junction) (name : String) : List (Policy F) → Run F (List (Expr F))
  | [] => return []
  | p :: rest => do
    match p.action? name with
    | none => declarativeRules kind name rest
    | some (.expr e) => return e :: (← declarativeRules kind name rest)
    | some (.value (.bool b)) => return .literal b :: (← declarativeRules kind name rest)
    | some _ =>
      Run.record (.skipped name p.subject kind)
      declarativeRules kind name rest

/-- The rule that joins expressions; none if there is none to join. -/
def joinRules (kind : Junction) : List (Expr F) → Option (Expr F)
  | [] => none
  | [e] => some e
  | es => some (.junction kind es)

/-- The joined rules of some actions. -/
def joinActions (kind : Junction) (ps : List (Policy F)) :
    List String → Run F (List (String × Rule F))
  | [] => return []
  | name :: rest => do
    let es ← declarativeRules kind name ps
    let joined ← joinActions kind ps rest
    return ((joinRules kind es).map fun e => (name, Rule.expr e)).toList ++ joined

/-- Joins policies; a single one stays as it is. -/
def join (kind : Junction) (ps : List (Policy F)) : Run F (Policy F) := do
  match ps with
  | [] => throw (.noPolicies kind.kind.name)
  | [p] => return p
  | p :: _ => return ⟨p.subject, ← joinActions kind ps (actionNames ps)⟩

end Policy

end Clearance
