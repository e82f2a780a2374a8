/-
  How the decision of a rule that compiles can fail.

  Compiling looks up every path and every function of a rule, also where a condition would not
  need them; the evaluator only comes to what it needs, with the same tables open around it.
  What is left for it to fail with are faults of the data: values that cannot be compared,
  resources that are no mapping, a pattern that cannot be read.  Those have no category.

  * `Expr.decision_dataFaults`: deciding a tree that compiles fails with faults of the data only;
  * `Rule.evaluate_of_compile`: so does deciding a rule that compiles, unless it is stopped by
    the limit on the number of nodes, which needs related nodes.
-/
import Clearance.Proofs.Filter.Declared
import Clearance.Proofs.Filter.Tally

namespace Clearance

open Sql

variable {F : Type} {α β : Type}

/-- A step fails with faults of the data only, which have no category. -/
def Result.DataFaults (r : Result α) : Prop := ∀ err, r = .error err → err.category? = none

namespace Result.DataFaults

theorem ok (a : α) : DataFaults (.ok a) := FailsOnly.ok a

theorem bind {r : Result α} {f : α → Result β} (hr : r.DataFaults)
    (hf : ∀ a, r = .ok a → (f a).DataFaults) : (r >>= f).DataFaults := FailsOnly.bind hr hf

theorem ofComparison (r : Except InvalidOperation α) : (Result.ofComparison r).DataFaults := by
  intro err h
  cases r with
  | ok a => cases h
  | error e => cases e; cases h; rfl

theorem bindTable (resources : Value) (table : String) (row : Value) :
    (bindTable resources table row).DataFaults := by
  intro err h
  unfold Clearance.bindTable at h
  split at h <;> cases h
  rfl

theorem finds [CharacterNames] (pattern : String) (flags : List PatternFlag) (text : String) :
    (Pattern.finds pattern flags text).DataFaults := by
  intro err h
  unfold Pattern.finds at h
  split at h <;> cases h
  rfl

theorem countRows {p : Value → Result Bool} (h : ∀ row, (p row).DataFaults) (rows : List Value) :
    ∀ needed, (countRows needed p rows).DataFaults := by
  induction rows with
  | nil => exact fun needed => .ok _
  | cons row rows ih =>
    intro needed
    rw [Clearance.countRows]
    split
    · exact .ok true
    · refine .bind (h row) fun b _ => ?_
      split
      · exact ih (needed - 1)
      · exact ih needed

end Result.DataFaults

section

variable {config : Config} {d : Declarations} {actor resources : Value} {opened : List String}

/-- A path that is compiled can be read. -/
theorem resolvePath_of_columnOf {p : PathRef} {column : Column}
    (h : columnOf d opened p = .ok column) :
    resolvePath resources opened p = .ok (readPath resources p) := by
  have hs : checkScope p opened = .ok () := checkScope_eq_ok.2 (columnOf_eq_ok.1 h).1
  rw [resolvePath, hs]
  rfl

/-- An operand that is compiled can be read. -/
theorem exists_resolveOperand (resources : Value) {o : Operand} {t : Term}
    (h : termOf d opened o = .ok t) :
    ∃ v, resolveOperand resources opened o = .ok v := by
  cases o with
  | path p =>
    obtain ⟨column, hc, -⟩ := Result.bind_eq_ok.1 h
    exact ⟨_, resolvePath_of_columnOf hc⟩
  | actor a => exact ⟨_, rfl⟩
  | scalar s => exact ⟨_, rfl⟩

/-- Deciding a leaf that is compiled fails with faults of the data only. -/
theorem evaluateLeaf_dataFaults [CharacterNames] {e : Expr F} {c : Clause}
    (h : leafClause config d actor opened e = .ok c) :
    (evaluateLeaf config actor resources opened e).DataFaults := by
  cases e with
  | comparison op left right =>
    obtain ⟨column, hc, h⟩ := Result.bind_eq_ok.1 h
    obtain ⟨t, ht, -⟩ := Result.bind_eq_ok.1 h
    obtain ⟨v, hv⟩ := exists_resolveOperand resources ht
    rw [evaluateLeaf, resolvePath_of_columnOf hc, hv]
    exact .ofComparison _
  | inArray path values =>
    obtain ⟨column, hc, -⟩ := Result.bind_eq_ok.1 h
    rw [evaluateLeaf, resolvePath_of_columnOf hc]
    split
    · exact .ok false
    · exact .ofComparison _
  | nullCheck test path =>
    obtain ⟨column, hc, -⟩ := Result.bind_eq_ok.1 h
    rw [evaluateLeaf, resolvePath_of_columnOf hc]
    exact .ok _
  | textMatch test path text =>
    obtain ⟨column, hc, -⟩ := Result.bind_eq_ok.1 h
    rw [evaluateLeaf, resolvePath_of_columnOf hc]
    exact .ok _
  | between path min max =>
    obtain ⟨column, hc, h⟩ := Result.bind_eq_ok.1 h
    obtain ⟨low, hl, h⟩ := Result.bind_eq_ok.1 h
    obtain ⟨high, hh, -⟩ := Result.bind_eq_ok.1 h
    obtain ⟨lowValue, hl⟩ := exists_resolveOperand resources hl
    obtain ⟨highValue, hh⟩ := exists_resolveOperand resources hh
    rw [evaluateLeaf, resolvePath_of_columnOf hc, hl, hh]
    exact .ofComparison _
  | «matches» path pattern flags =>
    obtain ⟨column, hc, -⟩ := Result.bind_eq_ok.1 h
    rw [evaluateLeaf, resolvePath_of_columnOf hc]
    refine .bind (.ok _) fun v _ => ?_
    split
    · exact .finds _ _ _
    · exact .ok false
  | tenantScoped path =>
    obtain ⟨column, hc, h⟩ := Result.bind_eq_ok.1 h
    obtain ⟨tenant, ht, -⟩ := Result.bind_eq_ok.1 h
    rw [evaluateLeaf, resolvePath_of_columnOf hc, ht]
    exact .ofComparison _
  | belongsToTenant a path =>
    obtain ⟨column, hc, -⟩ := Result.bind_eq_ok.1 h
    rw [evaluateLeaf, resolvePath_of_columnOf hc]
    exact .ofComparison _
  | _ => exact .ok false

end

/-! ## Trees and rules -/

section

variable {config : Config} {d : Declarations} {actor : Value}

theorem Expr.decisionAll_dataFaults [CharacterNames] {resources : Value} {opened : List String}
    {kind : Junction} {es : List (Expr Empty)}
    (h : ∀ e ∈ es, (e.decision config actor resources opened).DataFaults) :
    (Expr.decisionAll config actor resources opened kind es).DataFaults := by
  induction es with
  | nil => exact .ok _
  | cons e rest ih =>
    rw [decisionAll]
    refine .bind (h e (by simp)) fun b _ => ?_
    split
    · exact ih fun e he => h e (by simp [he])
    · exact .ok b

/-- **Deciding a tree that compiles fails with faults of the data only.**  Where compiling looks
    up a path in the predicate of related nodes, the same tables are open as where deciding reads
    it. -/
theorem Expr.decision_dataFaults [CharacterNames] (e : Expr Empty) : ∀ opened c,
    e.clause config d actor opened = .ok c → ∀ resources,
      (e.decision config actor resources opened).DataFaults := by
  induction e using treeInduction with
  | literal value => exact fun _ _ _ _ => .ok value
  | leaf e he =>
    intro opened c h resources
    rw [clause_leaf he] at h
    rw [decision_leaf he]
    exact evaluateLeaf_dataFaults h
  | function fn => exact fn.elim
  | related kind table predicate minCount ih =>
    intro opened c h resources
    obtain ⟨columns, owner, p, -, -, hp, -⟩ := clause_related_eq_ok.1 h
    rw [decision]
    split
    · exact .ok true
    · split
      · exact .ok false
      · exact .countRows (fun row => .bind (.bindTable _ _ _) fun bound _ => ih _ p hp bound) _ _
  | not e ih =>
    intro opened c h resources
    obtain ⟨p, hp, -⟩ := clause_not_eq_ok.1 h
    rw [decision]
    exact .bind (ih opened p hp resources) fun b _ => .ok _
  | junction kind rules ih =>
    intro opened c h resources
    obtain ⟨cs, hcs, -⟩ := clause_junction_eq_ok.1 h
    rw [decision]
    refine decisionAll_dataFaults fun e he => ?_
    obtain ⟨p, -, hp⟩ := exists_clause hcs he
    exact ih e he opened p hp resources

/-- The errors of deciding a rule that compiles are faults of the data and the limit on the
    number of nodes. -/
theorem Rule.evaluate_error_of_compile [CharacterNames] {call : Meaning F} {r : Rule F} {c : Clause}
    (h : (r.compile config call d actor).result = .ok c) {resources : Value} {err : Error}
    (herr : (r.evaluate config call actor resources).result = .error err) :
    err.category? = none ∨ ∃ limit, config.maxExpressionNodes = some limit ∧
      err = .budgetExceeded limit := by
  obtain ⟨e, he, hc⟩ := Rule.expansion_of_compile h
  have hrun : (r.evaluate config call actor resources).Follows config
      (e.decision config actor resources []) := Rule.evaluate_follows he
  rcases hrun {} with hd | ⟨limit, hl, hb⟩
  · rw [← Run.result_eq, herr] at hd
    exact .inl (e.decision_dataFaults [] c hc resources err hd.symm)
  · rw [← Run.result_eq, herr] at hb
    cases hb
    exact .inr ⟨limit, hl, rfl⟩

end

/-- **A rule that compiles also evaluates.**  Deciding it, on whatever resources, fails for none
    of the reasons that lie in the rule, the actor or the functions, and all functions that it
    calls return.  Without related nodes in its expansion it charges no more nodes than compiling
    does, and is not stopped by the limit on their number. -/
theorem Rule.evaluate_of_compile [CharacterNames] (config : Config) (call : Meaning F)
    (d : Declarations) (actor : Value) (r : Rule F) (c : Clause)
    (h : (r.compile config call d actor).result = .ok c) (resources : Value) :
    (∀ err, (r.evaluate config call actor resources).result = .error err →
      ∀ category ∈ [ErrorCategory.pathResolution, .missingActorField, .functionDepthExceeded,
        .invalidRule, .unknownExpressionKind], err.category? ≠ some category) ∧
    (∀ fn description depth,
      .expanded fn description depth ∈ (r.evaluate config call actor resources).outcome.2.events →
        ∃ rule, call fn actor = .ok rule) ∧
    ∃ e, r.expansion config call actor = some e ∧ (e.relatedTables = [] →
      (r.evaluate config call actor resources).outcome.2.nodes ≤
        (r.compile config call d actor).outcome.2.nodes ∧
      ∀ limit, (r.evaluate config call actor resources).result ≠
        .error (.budgetExceeded limit)) := by
  obtain ⟨e, he, hc⟩ := Rule.expansion_of_compile h
  refine ⟨fun err herr category hmem => ?_, Rule.evaluate_calls he resources, e, he,
    fun hr => ?_⟩
  · rcases Rule.evaluate_error_of_compile h herr with hn | ⟨limit, -, rfl⟩
    · simp [hn]
    · rintro ⟨⟩
      simp at hmem
  · obtain ⟨hn, hadm⟩ := Rule.compile_charges h
    obtain ⟨hd, hle⟩ := Rule.evaluate_within he hr resources {} (by simpa using hadm)
    refine ⟨?_, fun limit hb => ?_⟩
    · rw [hn, ← Nat.zero_add (r.weight config call actor)]
      exact hle
    · rw [Run.result_eq, hd] at hb
      cases e.decision_dataFaults [] c hc resources _ hb

/-- A function of the actor returns the comparison of an item's owner with the actor. -/
def ownership : Meaning Unit := fun _ actor =>
  .ok (.expr (.comparison .eq ⟨false, "item", "owner_id"⟩ (.actor ⟨actor.field "id", "id"⟩)))

/-- The items that the actor owns, and those without an owner. -/
def ownedItems : Rule Unit :=
  .expr (.junction .or [.function () "owns", .nullCheck .isNull ⟨false, "item", "owner_id"⟩])

section

attribute [local instance] CharacterNames.empty

/-- Four nodes are compiled; deciding an item of the actor comes to three of them, the function
    with what it returns among them. -/
theorem Rule.evaluate_of_compile_of_owner :
    (ownedItems.compile { maxExpressionNodes := some 4 } ownership itemTables
      (.dict [("id", .int 7)])).outcome.2.nodes = 4 ∧
    (ownedItems.evaluate { maxExpressionNodes := some 4 } ownership (.dict [("id", .int 7)])
      (.dict [("item", .dict [("owner_id", .int 7)])])).outcome.2.nodes ≤ 4 ∧
    (∃ rule, ownership () (.dict [("id", .int 7)]) = .ok rule) ∧
    ∀ limit, (ownedItems.evaluate { maxExpressionNodes := some 4 } ownership
      (.dict [("id", .int 7)]) (.dict [("item", .dict [("owner_id", .int 7)])])).result ≠
        .error (.budgetExceeded limit) := by
  obtain ⟨-, hcalls, e, he, hrun⟩ := Rule.evaluate_of_compile { maxExpressionNodes := some 4 }
    ownership itemTables (.dict [("id", .int 7)]) ownedItems _ rfl
    (.dict [("item", .dict [("owner_id", .int 7)])])
  cases he
  obtain ⟨hnodes, hlimit⟩ := hrun (by
    simp [Expr.relatedTables, Expr.walk_eq_preorder, Expr.preorder, Expr.preorderAll])
  exact ⟨rfl, hnodes, hcalls () "owns" 1 (List.mem_singleton.2 rfl), hlimit⟩

end

end Clearance
