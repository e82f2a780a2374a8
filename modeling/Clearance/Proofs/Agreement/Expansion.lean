/-
  A rule and its expansion.

  Deciding expands a function each time it comes to it, once for each row of a related table,
  and compiling expands it once; either way the rule stands for the tree without functions that
  it is expanded to.

  * `Rule.runs_as_expansion`: a rule and its expansion are decided and compiled with the same
    outcome, errors included.
-/
import Clearance.Proofs.Filter.Declared

namespace Clearance

variable {F : Type}

/-- **A rule means what it is expanded to.**  If no more functions are nested than the
    configuration allows and nodes are not counted, a rule has the same outcome as the tree in
    which each function is replaced by what it returns, on all resources and with all
    declarations. -/
theorem Rule.runs_as_expansion [CharacterNames] (config : Config) (call : Meaning F) (actor : Value)
    (r : Rule F) (e : Expr F) (t : Expr Empty) (n : Nat) (hl : config.maxExpressionNodes = none)
    (he : r.toExpr = .ok e) (ht : expandWithin call actor n e = some t)
    (hn : n ≤ config.maxFunctionDepth) :
    (∀ resources, (r.evaluate config call actor resources).result =
      ((Rule.expr t).evaluate config noFunctions actor resources).result) ∧
    (∀ d, (r.compile config call d actor).result =
      ((Rule.expr t).compile config noFunctions d actor).result) := by
  have hr : r.expansion config call actor = some t :=
    Rule.expansion_eq_some.2 ⟨e, he, expandWithin_mono hn ht⟩
  have hc := Rule.expansion_expr config actor t
  refine ⟨fun resources => ?_, fun d => ?_⟩
  · calc (r.evaluate config call actor resources).result
      _ = t.decision config actor resources [] := (Rule.evaluate_follows hr).result_eq hl
      _ = _ := ((Rule.evaluate_follows hc).result_eq hl).symm
  · calc (r.compile config call d actor).result
      _ = t.clause config d actor [] := (Rule.compile_follows hr).result_eq hl
      _ = _ := ((Rule.compile_follows hc).result_eq hl).symm

/-- The meaning of two functions: one returns a tree on a row of the notes, which holds the
    other, and that one returns a truth value. -/
def noteFunctions : Meaning Bool
  | true, _ => .ok (.expr (.junction .and
      [.comparison .eq ⟨true, "notes", "item_id"⟩ (.path ⟨false, "item", "id"⟩),
       .not (.function false "never")]))
  | false, _ => .ok (.value (.bool false))

section

attribute [local instance] CharacterNames.empty

/-- A path on the row of a note that a function returns is read from the row that a related node
    around the function opens. -/
theorem Rule.runs_as_expansion_of_notes :
    ((Rule.expr (.related .exists "notes" (.function true "noted") 1)).evaluate {} noteFunctions
        .null (.dict [("item", .dict [("id", .int 1)]),
          ("notes", .list [.dict [("item_id", .int 1)]])])).result = .ok true ∧
    ((Rule.expr (.related .exists "notes" (.function true "noted") 1)).compile {} noteFunctions
        itemTables .null).result =
      ((Rule.expr (.related .exists "notes" (.junction .and
        [.comparison .eq ⟨true, "notes", "item_id"⟩ (.path ⟨false, "item", "id"⟩),
         .not (.literal false)]) 1)).compile {} noFunctions itemTables .null).result := by
  obtain ⟨heval, hcompile⟩ := Rule.runs_as_expansion {} noteFunctions .null
    (.expr (.related .exists "notes" (.function true "noted") 1)) _ _ 2 rfl rfl rfl (by decide)
  exact ⟨(heval _).trans rfl, hcompile _⟩

end

end Clearance
