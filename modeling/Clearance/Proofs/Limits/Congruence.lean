/-
  Two runs over one rule, side by side.

  Deciding and compiling are put together from few steps: a node is charged, something is
  recorded, something may fail, and one run follows another.  Whatever relates the steps under
  two configurations and is kept in sequences relates the whole runs, if it does so at function
  nodes.

  Neither run need give anything: the relation is between runs, and not, as in `Run.Reckoning`,
  between a run and the result of a tree.

  * `Run.Congruence config config' R` lists what a relation `R` of runs must respect;
  * `Run.Congruence.evaluateNode`, `Run.Congruence.compileNode`: such a relation holds of the
    two ways to decide and to compile a tree.
-/
import Clearance.Proofs.Filter.Outcome

namespace Clearance

variable {F : Type} {config config' : Config} {R : (α : Type) → Run F α → Run F α → Prop}

/-- The configurations differ in their limits at most, and the relation respects the steps that
    runs consist of. -/
structure Run.Congruence (config config' : Config) (R : (α : Type) → Run F α → Run F α → Prop) :
    Prop where
  tenantNamespace : config.tenantNamespace = config'.tenantNamespace
  regexStrategy : config.regexStrategy = config'.regexStrategy
  ofResult : ∀ {α} (r : Result α), R α (Run.ofResult r) (Run.ofResult r)
  record : ∀ event, R Unit (Run.record event) (Run.record event)
  charge : R Unit (Run.charge config) (Run.charge config')
  bind : ∀ {α β} {run run' : Run F α} {f f' : α → Run F β},
    R α run run' → (∀ a, R β (f a) (f' a)) → R β (run >>= f) (run' >>= f')

namespace Run.Congruence

theorem pure (h : Congruence config config' R) {α : Type} (a : α) :
    R α (pure a : Run F α) (pure a) :=
  h.ofResult (.ok a)

theorem charged (h : Congruence config config' R) {α : Type} {run run' : Run F α}
    (hr : R α run run') :
    R α (do Run.charge config; run) (do Run.charge config'; run') :=
  h.bind h.charge fun _ => hr

theorem expand (h : Congruence config config' R) (call : Meaning F) (actor : Value) (depth : Nat)
    (fn : F) (description : String) :
    R (Expr F) (Run.expand call actor depth fn description)
      (Run.expand call actor depth fn description) :=
  h.bind (h.record _) fun _ => h.bind (h.ofResult _) fun _ => h.ofResult _

/-! ## Deciding -/

section

variable {actor : Value} {onFunction onFunction' : OnFunction F (Value → List String → Run F Bool)}

theorem countRows (h : Congruence config config' R) {p p' : Value → Run F Bool}
    (hp : ∀ row, R Bool (p row) (p' row)) (rows : List Value) :
    ∀ needed, R Bool (countRows needed p rows) (countRows needed p' rows) := by
  induction rows with
  | nil => exact fun needed => h.pure _
  | cons row rows ih =>
    intro needed
    rw [Clearance.countRows, Clearance.countRows]
    split
    · exact h.pure true
    · refine h.bind (hp row) fun b => ?_
      split
      · exact ih (needed - 1)
      · exact ih needed

theorem evaluateJunction [CharacterNames] (h : Congruence config config' R) {kind : Junction}
    {resources : Value} {opened : List String} {es : List (Expr F)}
    (he : ∀ e ∈ es, R Bool (evaluateNode config actor onFunction resources opened e)
      (evaluateNode config' actor onFunction' resources opened e)) :
    R Bool (evaluateJunction config actor onFunction resources opened kind es)
      (evaluateJunction config' actor onFunction' resources opened kind es) := by
  induction es with
  | nil => exact h.pure _
  | cons e rest ih =>
    rw [Clearance.evaluateJunction, Clearance.evaluateJunction]
    refine h.bind (he e (by simp)) fun b => ?_
    split
    · exact ih fun e hr => he e (by simp [hr])
    · exact h.pure b

theorem evaluateLeaf [CharacterNames] (h : Congruence config config' R) (resources : Value)
    (opened : List String) (e : Expr F) :
    evaluateLeaf config actor resources opened e = evaluateLeaf config' actor resources opened e := by
  cases e with
  | tenantScoped path => rw [Clearance.evaluateLeaf, Clearance.evaluateLeaf, h.tenantNamespace]
  | _ => rfl

/-- A relation that is respected at function nodes is respected by deciding a tree. -/
theorem evaluateNode [CharacterNames] (h : Congruence config config' R)
    (hf : ∀ fn description resources opened, R Bool (onFunction fn description resources opened)
      (onFunction' fn description resources opened))
    (e : Expr F) : ∀ resources opened,
      R Bool (evaluateNode config actor onFunction resources opened e)
        (evaluateNode config' actor onFunction' resources opened e) := by
  induction e using Expr.treeInduction with
  | literal value => exact fun resources opened => h.charged (h.pure value)
  | leaf e he =>
    intro resources opened
    rw [evaluateNode_leaf he, evaluateNode_leaf he, h.evaluateLeaf]
    exact h.charged (h.ofResult _)
  | function fn description =>
    exact fun resources opened => h.charged (hf fn description resources opened)
  | related kind table predicate minCount ih =>
    intro resources opened
    rw [Clearance.evaluateNode, Clearance.evaluateNode]
    refine h.charged ?_
    split
    · exact h.pure true
    · rcases (resources.field table).rows? with _ | rows
      · exact h.pure false
      · exact h.countRows (fun row => h.bind (h.ofResult _) fun bound => ih bound _) rows minCount
  | not e ih =>
    intro resources opened
    rw [Clearance.evaluateNode, Clearance.evaluateNode]
    exact h.charged (h.bind (ih resources opened) fun b => h.pure _)
  | junction kind rules ih =>
    intro resources opened
    rw [Clearance.evaluateNode, Clearance.evaluateNode]
    exact h.charged (h.evaluateJunction fun e he => ih e he resources opened)

end

/-! ## Compiling -/

section

open Sql

variable {d : Declarations} {actor : Value}
  {onFunction onFunction' : OnFunction F (List String → Run F Clause)}

theorem compileLeaf (h : Congruence config config' R) (opened : List String) (e : Expr F) :
    R Clause (compileLeaf config d actor opened e) (compileLeaf config' d actor opened e) := by
  have hl : leafClause config d actor opened e = leafClause config' d actor opened e := by
    cases e with
    | tenantScoped path => rw [leafClause, leafClause, h.tenantNamespace]
    | «matches» path pattern flags => rw [leafClause, leafClause, h.regexStrategy]
    | _ => rfl
  have hp : R Unit (recordPattern config e) (recordPattern config' e) := by
    cases e with
    | «matches» path pattern flags =>
      rw [recordPattern, recordPattern, h.regexStrategy]
      exact h.record _
    | _ => exact h.pure ()
  rw [Clearance.compileLeaf, Clearance.compileLeaf, hl]
  exact h.bind (h.ofResult _) fun c => h.bind hp fun _ => h.pure c

theorem compileAll (h : Congruence config config' R) {opened : List String} {es : List (Expr F)}
    (he : ∀ e ∈ es, R Clause (compileNode config d actor onFunction opened e)
      (compileNode config' d actor onFunction' opened e)) :
    R (List Clause) (compileAll config d actor onFunction opened es)
      (compileAll config' d actor onFunction' opened es) := by
  induction es with
  | nil => exact h.pure _
  | cons e rest ih =>
    rw [Clearance.compileAll, Clearance.compileAll]
    exact h.bind (he e (by simp)) fun c =>
      h.bind (ih fun e hr => he e (by simp [hr])) fun cs => h.pure _

/-- A relation that is respected at function nodes is respected by compiling a tree. -/
theorem compileNode (h : Congruence config config' R)
    (hf : ∀ fn description opened, R Clause (onFunction fn description opened)
      (onFunction' fn description opened))
    (e : Expr F) : ∀ opened, R Clause (compileNode config d actor onFunction opened e)
      (compileNode config' d actor onFunction' opened e) := by
  induction e using Expr.treeInduction with
  | literal value => exact fun opened => h.charged (h.pure _)
  | leaf e he =>
    intro opened
    rw [compileNode_leaf he, compileNode_leaf he]
    exact h.charged (h.compileLeaf opened e)
  | function fn description => exact fun opened => h.charged (hf fn description opened)
  | related kind table predicate minCount ih =>
    intro opened
    rw [Clearance.compileNode, Clearance.compileNode]
    exact h.charged (h.bind (h.ofResult _) fun columns => h.bind (h.ofResult _) fun owner =>
      h.bind (ih _) fun p => h.pure _)
  | not e ih =>
    intro opened
    rw [Clearance.compileNode, Clearance.compileNode]
    exact h.charged (h.bind (ih opened) fun p => h.pure _)
  | junction kind rules ih =>
    intro opened
    rw [Clearance.compileNode, Clearance.compileNode]
    exact h.charged (h.bind (h.compileAll fun e he => ih e he opened) fun cs => h.pure _)

end

end Run.Congruence

end Clearance
