/-
  The visits of a decision.

  * `Visit.Decides`: to which visits a visit leads when a rule is decided: a rule of a junction
    is visited if those before it leave the junction open, and the predicate of a related node
    for a row if too few of the rows before it satisfy it;
  * `decides_traversal`: this is what deciding does.
-/
import Clearance.Proofs.Agreement.Faults
import Clearance.Proofs.Limits.Visit

namespace Clearance

variable {F : Type} {config : Config} {call : Meaning F} {actor : Value}

/-- What deciding does at a function node, with a number of further expansions allowed. -/
def decideCall [CharacterNames] (config : Config) (call : Meaning F) (actor : Value) :
    Nat → OnFunction F (Value → List String → Run F Bool)
  | 0 => fun _ description _ _ => throw (.depthExceeded description config.maxFunctionDepth)
  | remaining + 1 => fun fn description resources opened => do
      let e ← Run.expand call actor (config.maxFunctionDepth - (remaining + 1)) fn description
      evaluateWithin config call actor remaining resources opened e

theorem evaluateWithin_eq [CharacterNames] (config : Config) (call : Meaning F) (actor : Value)
    (remaining : Nat) :
    evaluateWithin config call actor remaining =
      evaluateNode config actor (decideCall config call actor remaining) := by
  cases remaining <;> rfl

/-- What deciding does for a row of a related table. -/
def decideRow [CharacterNames] (config : Config) (call : Meaning F) (actor : Value)
    (remaining : Nat) (resources : Value) (opened : List String) (table : String)
    (predicate : Expr F) (row : Value) :
    Run F Bool := do
  let bound ← Run.ofResult (bindTable resources table row)
  evaluateWithin config call actor remaining bound (opened ++ [table]) predicate

namespace Visit

/-- What a visit comes to when a rule is decided; its place are the resources and the open
    tables. -/
def decide [CharacterNames] (config : Config) (call : Meaning F) (actor : Value)
    (v : Visit F (Value × List String)) : Result Bool × Tally F :=
  (evaluateWithin config call actor (config.maxFunctionDepth - v.called.length) v.place.1 v.place.2
    v.node).outcomeFrom v.tally

/-- The visits that a visit leads to when a rule is decided, each after the visit is charged. -/
inductive Decides [CharacterNames] (config : Config) (call : Meaning F) (actor : Value) :
    Visit F (Value × List String) → Visit F (Value × List String) → Prop
  | negation {called place t e} : config.Admits (t.nodes + 1) →
      Decides config call actor ⟨called, place, t, .not e⟩ ⟨called, place, t.charged, e⟩
  | rule {called resources opened t kind before e after t'} : config.Admits (t.nodes + 1) →
      (evaluateJunction config actor
        (decideCall config call actor (config.maxFunctionDepth - called.length)) resources opened
        kind before).outcomeFrom t.charged = (.ok (kind == .and), t') →
      Decides config call actor
        ⟨called, (resources, opened), t, .junction kind (before ++ e :: after)⟩
        ⟨called, (resources, opened), t', e⟩
  | row {called resources opened t kind table predicate minCount before row after t' bound} :
      config.Admits (t.nodes + 1) → (resources.field table).rows? = some (before ++ row :: after) →
      (countRows minCount (decideRow config call actor (config.maxFunctionDepth - called.length)
        resources opened table predicate) before).outcomeFrom t.charged = (.ok false, t') →
      bindTable resources table row = .ok bound →
      Decides config call actor
        ⟨called, (resources, opened), t, .related kind table predicate minCount⟩
        ⟨called, (bound, opened ++ [table]), t', predicate⟩
  | call {called place t fn description e t'} : config.Admits (t.nodes + 1) →
      called.length < config.maxFunctionDepth →
      (Run.expand call actor called.length fn description).outcomeFrom t.charged = (.ok e, t') →
      Decides config call actor ⟨called, place, t, .function fn description⟩
        ⟨called ++ [fn], place, t', e⟩

end Visit

/-! ## Loops -/

section

variable {resources : Value} {opened : List String} {calls : List F}

theorem junction_loop [CharacterNames] (kind : Junction) :
    Visit.Loop (Visit.decide config call actor)
      (fun e t => ⟨calls, (resources, opened), t, e⟩)
      (fun (_ : Unit) es t => (evaluateJunction config actor
        (decideCall config call actor (config.maxFunctionDepth - calls.length)) resources opened
        kind es).outcomeFrom t)
      (fun _ es t t' => (evaluateJunction config actor
        (decideCall config call actor (config.maxFunctionDepth - calls.length)) resources opened
        kind es).outcomeFrom t = (.ok (kind == .and), t')) where
  tally _ _ := rfl
  nil _ t := ⟨_, rfl⟩
  opens_nil := by
    intro _ t t'
    constructor
    · rintro ⟨⟩
      rfl
    · rintro rfl
      rfl
  fails := by
    intro _ e t err he es
    rw [Visit.decide, evaluateWithin_eq] at he ⊢
    simp only [evaluateJunction, Run.outcomeFrom_bind_of_error (Prod.ext he rfl)]
    exact ⟨trivial, fun t' h => by cases h⟩
  next := by
    intro _ e t b he
    rw [Visit.decide, evaluateWithin_eq] at he ⊢
    by_cases hb : b = (kind == .and)
    · refine .inr ⟨(), id, fun es => ?_⟩
      simp [evaluateJunction, Run.outcomeFrom_bind_of_ok (Prod.ext he rfl), hb, Except.map_id]
    · refine .inl fun es => ?_
      simp [evaluateJunction, Run.outcomeFrom_bind_of_ok (Prod.ext he rfl), hb]

/-- Binding a table works for all of its rows or for none. -/
theorem bindTable_ok_or_error (resources : Value) (table : String) :
    (∃ bound : Value → Value, ∀ row, bindTable resources table row = .ok (bound row)) ∨
      ∃ err, err.category? ≠ some .functionDepthExceeded ∧
        ∀ row, bindTable resources table row = .error err := by
  cases resources with
  | dict fields => exact .inl ⟨_, fun row => rfl⟩
  | _ => exact .inr ⟨.notMapping _, by simp [Error.category?], fun row => rfl⟩

/-- The loop over the rows of a related table, where one row more is needed than its state says. -/
theorem rows_loop [CharacterNames] {table : String} {predicate : Expr F} {bound : Value → Value}
    (hbound : ∀ row, bindTable resources table row = .ok (bound row)) :
    Visit.Loop (Visit.decide config call actor)
      (fun row t => ⟨calls, (bound row, opened ++ [table]), t, predicate⟩)
      (fun needed rows t => (countRows (needed + 1) (decideRow config call actor
        (config.maxFunctionDepth - calls.length) resources opened table predicate)
        rows).outcomeFrom t)
      (fun needed rows t t' => (countRows (needed + 1) (decideRow config call actor
        (config.maxFunctionDepth - calls.length) resources opened table predicate)
        rows).outcomeFrom t = (.ok false, t')) := by
  have hrow : ∀ row, decideRow config call actor (config.maxFunctionDepth - calls.length)
      resources opened table predicate row = evaluateWithin config call actor
        (config.maxFunctionDepth - calls.length) (bound row) (opened ++ [table]) predicate := by
    intro row
    rw [decideRow, hbound]
    rfl
  refine ⟨fun _ _ => rfl, fun _ t => ⟨_, rfl⟩, ?_, ?_, ?_⟩
  · intro needed t t'
    constructor
    · rintro ⟨⟩
      rfl
    · rintro rfl
      rfl
  · intro needed row t err he rows
    rw [Visit.decide] at he ⊢
    simp [countRows, hrow, Run.outcomeFrom_bind_of_error (Prod.ext he rfl)]
  · intro needed row t b he
    rw [Visit.decide] at he ⊢
    cases b with
    | false =>
      refine .inr ⟨needed, id, fun rows => ?_⟩
      simp [countRows, hrow, Run.outcomeFrom_bind_of_ok (Prod.ext he rfl), Except.map_id]
    | true =>
      cases needed with
      | zero =>
        refine .inl fun rows => ?_
        cases rows <;> simp [countRows, hrow, Run.outcomeFrom_bind_of_ok (Prod.ext he rfl)]
      | succ needed =>
        refine .inr ⟨needed, id, fun rows => ?_⟩
        simp [countRows, hrow, Run.outcomeFrom_bind_of_ok (Prod.ext he rfl), Except.map_id]

/-- Deciding a leaf does not fail for the depth of functions. -/
theorem evaluateLeaf_not_tooDeep [CharacterNames] (e : Expr F) :
    ¬ (evaluateLeaf config actor resources opened e).IsTooDeep := by
  refine Result.FailsOnly.not_isTooDeep ?_
  have hdata : ∀ {α : Type} {r : Result α}, r.DataFaults →
      r.FailsOnly fun err => err.category? ≠ some .functionDepthExceeded := by
    intro α r h err he
    rw [h err he]
    simp
  have hpath : ∀ p, (resolvePath resources opened p).FailsOnly fun err =>
      err.category? ≠ some .functionDepthExceeded := by
    refine fun p => .bind (fun err h => ?_) fun _ _ => .ok _
    unfold checkScope at h
    split at h <;> cases h
    simp [Error.category?]
  have hoperand : ∀ o, (resolveOperand resources opened o).FailsOnly fun err =>
      err.category? ≠ some .functionDepthExceeded := by
    intro o
    cases o with
    | path p => exact hpath p
    | actor a => exact .ok _
    | scalar s => exact .ok _
  cases e with
  | comparison op left right =>
    exact .bind (hpath left) fun _ _ => .bind (hoperand right) fun _ _ =>
      hdata (.ofComparison _)
  | inArray path values =>
    rw [evaluateLeaf]
    split
    · exact .ok false
    · exact .bind (hpath path) fun _ _ => hdata (.ofComparison _)
  | nullCheck test path => exact .bind (hpath path) fun _ _ => .ok _
  | textMatch test path text => exact .bind (hpath path) fun _ _ => .ok _
  | between path min max =>
    exact .bind (hpath path) fun _ _ => .bind (hoperand min) fun _ _ =>
      .bind (hoperand max) fun _ _ => hdata (.ofComparison _)
  | «matches» path pattern flags =>
    refine .bind (hpath path) fun v _ => ?_
    split
    · exact hdata (.finds _ _ _)
    · exact .ok false
  | tenantScoped path =>
    refine .bind ?_ fun _ _ => .bind (hpath path) fun _ _ => hdata (.ofComparison _)
    exact (lookupTenant_failsOnly _ _ _).mono fun err h => by rw [h]; simp
  | belongsToTenant a path => exact .bind (hpath path) fun _ _ => hdata (.ofComparison _)
  | literal | related | not | junction | function => exact .ok _

end

/-! ## The traversal -/

theorem Visit.Decides.smaller [CharacterNames] {v w : Visit F (Value × List String)}
    (h : v.Decides config call actor w) : w.called = v.called ∧ w.node.size < v.node.size ∨
      v.called.length < config.maxFunctionDepth ∧
        ∃ fn description, v.node = .function fn description ∧ w.called = v.called ++ [fn] := by
  cases h with
  | negation => exact .inl ⟨rfl, Nat.lt_succ_self _⟩
  | @rule called resources opened t kind before e after =>
    exact .inl ⟨rfl, Expr.size_lt_junction kind (by simp)⟩
  | row => exact .inl ⟨rfl, Nat.lt_succ_self _⟩
  | call _ hlt _ => exact .inr ⟨hlt, _, _, rfl, rfl⟩

section

variable {called : List F} {resources : Value} {opened : List String} {t : Tally F}

theorem decideCall_of_lt [CharacterNames] (hlt : called.length < config.maxFunctionDepth) (fn : F)
    (description : String) (resources : Value) (opened : List String) :
    decideCall config call actor (config.maxFunctionDepth - called.length) fn description resources
        opened = (do
      let e ← Run.expand call actor called.length fn description
      evaluateWithin config call actor (config.maxFunctionDepth - (called ++ [fn]).length) resources
        opened e) := by
  obtain ⟨remaining, hleft, hdepth, hnext⟩ := exists_remaining hlt fn
  rw [hleft, hnext, decideCall, hdepth]

theorem Visit.decide_function [CharacterNames] (h : config.Admits (t.nodes + 1)) (fn : F)
    (description : String) :
    Visit.decide config call actor ⟨called, (resources, opened), t, .function fn description⟩ =
      (decideCall config call actor (config.maxFunctionDepth - called.length) fn description
        resources opened).outcomeFrom t.charged := by
  rw [Visit.decide, evaluateWithin_eq, ← Run.outcomeFrom_charged h]
  rfl

theorem Visit.decide_refused [CharacterNames] (call : Meaning F) (actor : Value)
    {v : Visit F (Value × List String)} (h : ¬ config.Admits (v.tally.nodes + 1)) :
    ∃ limit, v.decide config call actor = (.error (.budgetExceeded limit), v.tally.charged) := by
  obtain ⟨called, ⟨resources, opened⟩, t, e⟩ := v
  have hnode : ∃ run : Run F Bool, evaluateWithin config call actor
      (config.maxFunctionDepth - called.length) resources opened e =
        (do Run.charge config; run) := by
    rw [evaluateWithin_eq]
    cases e using Expr.treeInduction with
    | leaf e he => exact ⟨_, evaluateNode_leaf he⟩
    | _ => exact ⟨_, by rw [evaluateNode]⟩
  obtain ⟨run, hrun⟩ := hnode
  rw [Visit.decide, hrun]
  exact Run.outcomeFrom_refused h run

theorem Visit.decide_not [CharacterNames] (h : config.Admits (t.nodes + 1)) (e : Expr F) :
    Visit.decide config call actor ⟨called, (resources, opened), t, .not e⟩ =
      ((Visit.decide config call actor ⟨called, (resources, opened), t.charged, e⟩).1.map (!·),
        (Visit.decide config call actor ⟨called, (resources, opened), t.charged, e⟩).2) := by
  simp only [Visit.decide, evaluateWithin_eq]
  rw [evaluateNode, Run.outcomeFrom_charged h, Run.outcomeFrom_map]

theorem Visit.decide_junction [CharacterNames] (h : config.Admits (t.nodes + 1)) (kind : Junction)
    (rules : List (Expr F)) :
    Visit.decide config call actor ⟨called, (resources, opened), t, .junction kind rules⟩ =
      (evaluateJunction config actor
        (decideCall config call actor (config.maxFunctionDepth - called.length)) resources opened
        kind rules).outcomeFrom t.charged := by
  rw [Visit.decide, evaluateWithin_eq, evaluateNode, Run.outcomeFrom_charged h]

theorem Visit.decide_related [CharacterNames] (h : config.Admits (t.nodes + 1)) (kind : RelatedKind)
    (table : String) (predicate : Expr F) (minCount : Nat) :
    Visit.decide config call actor
        ⟨called, (resources, opened), t, .related kind table predicate minCount⟩ =
      (match minCount, (resources.field table).rows? with
        | 0, _ => pure true
        | _, none => pure false
        | n, some rows => countRows n (decideRow config call actor
            (config.maxFunctionDepth - called.length) resources opened table predicate) rows
          : Run F Bool).outcomeFrom t.charged := by
  rw [Visit.decide, evaluateWithin_eq, evaluateNode, Run.outcomeFrom_charged h]
  unfold decideRow
  rw [evaluateWithin_eq]
  cases minCount with
  | zero => rfl
  | succ n => cases (resources.field table).rows? <;> rfl

end

/-- The rows of a related node, one after the other. -/
theorem related_inTurn [CharacterNames] {called : List F} {resources : Value} {opened : List String}
    {t : Tally F} (hadm : config.Admits (t.nodes + 1)) (kind : RelatedKind) (table : String)
    (predicate : Expr F) (minCount : Nat) :
    ∃ ws, (∀ w, w ∈ ws ↔ Visit.Decides config call actor
        ⟨called, (resources, opened), t, .related kind table predicate minCount⟩ w) ∧
      Visit.InTurn (Visit.decide config call actor) (t.nodes + 1) ws (Visit.decide config call actor
        ⟨called, (resources, opened), t, .related kind table predicate minCount⟩) := by
  have hparts : ∀ w, Visit.Decides config call actor
      ⟨called, (resources, opened), t, .related kind table predicate minCount⟩ w ↔
      ∃ rows before row after,
        (resources.field table).rows? = some rows ∧ rows = before ++ row :: after ∧ ∃ t' bound,
        (countRows minCount (decideRow config call actor (config.maxFunctionDepth - called.length)
          resources opened table predicate) before).outcomeFrom t.charged = (.ok false, t') ∧
        bindTable resources table row = .ok bound ∧
        w = ⟨called, (bound, opened ++ [table]), t', predicate⟩ := by
    intro w
    constructor
    · rintro (_ | _ | ⟨_, hrows, hopen, hbound⟩ | _)
      exact ⟨_, _, _, _, hrows, rfl, _, _, hopen, hbound, rfl⟩
    · rintro ⟨_, before, row, after, hrows, rfl, t', bound, hopen, hbound, rfl⟩
      exact .row hadm hrows hopen hbound
  rw [Visit.decide_related hadm]
  cases minCount with
  | zero =>
    refine ⟨[], fun w => iff_of_false (by simp) fun h => ?_,
      .done (Result.not_isTooDeep_ok true) rfl⟩
    obtain ⟨_, before, _, _, _, _, t', _, hopen, -⟩ := (hparts w).1 h
    cases before <;> cases hopen
  | succ needed =>
    cases hrows : (resources.field table).rows? with
    | none =>
      refine ⟨[], fun w => iff_of_false (by simp) fun h => ?_,
        .done (Result.not_isTooDeep_ok false) rfl⟩
      obtain ⟨_, _, _, _, hsome, -⟩ := (hparts w).1 h
      rw [hrows] at hsome
      cases hsome
    | some rows =>
      rcases bindTable_ok_or_error resources table with ⟨bound, hbound⟩ | ⟨err, hc, herr⟩
      · obtain ⟨ws, hws, hturn⟩ := (rows_loop hbound).inTurn rows needed t.charged
        refine ⟨ws, fun w => ?_, hturn⟩
        rw [hws, hparts]
        simp only [hrows, hbound, Option.some.injEq, Except.ok.injEq]
        constructor
        · rintro ⟨before, row, after, hsplit, t', hopen, rfl⟩
          exact ⟨rows, before, row, after, rfl, hsplit, t', bound row, hopen, rfl, rfl⟩
        · rintro ⟨_, before, row, after, rfl, hsplit, t', _, hopen, rfl, rfl⟩
          exact ⟨before, row, after, hsplit, t', hopen, rfl⟩
      -- The first row fails already, without a visit.
      · refine ⟨[], fun w => iff_of_false (by simp) fun h => ?_, ?_⟩
        · obtain ⟨_, _, row, _, _, _, _, _, _, hok, -⟩ := (hparts w).1 h
          rw [herr] at hok
          cases hok
        · cases rows with
          | nil => exact .done (Result.not_isTooDeep_ok false) rfl
          | cons row rows =>
            have hrow : (countRows (needed + 1) (decideRow config call actor
                (config.maxFunctionDepth - called.length) resources opened table predicate)
                (row :: rows)).outcomeFrom t.charged = (.error err, t.charged) := by
              rw [countRows, decideRow, herr]
              rfl
            change Visit.InTurn _ _ [] (Run.outcomeFrom (countRows (needed + 1) _ (row :: rows)) _)
            rw [hrow]
            refine .done ?_ rfl
            rintro ⟨_, ⟨⟩, hc'⟩
            exact hc hc'

/-- Deciding calls functions. -/
theorem decides_atFunctions [CharacterNames] (config : Config) (call : Meaning F) (actor : Value) :
    Visit.AtFunctions config call actor (Visit.Decides config call actor)
      (Visit.decide config call actor) where
  parts := by
    intro called place t fn description w
    constructor
    · rintro (_ | _ | _ | ⟨hadm, hlt, hok⟩)
      exact ⟨hadm, hlt, _, _, hok, rfl⟩
    · rintro ⟨hadm, hlt, e, t', hok, rfl⟩
      exact .call hadm hlt hok
  tooDeep := by
    rintro called ⟨resources, opened⟩ t fn description hadm hle
    rw [Visit.decide_function hadm, Nat.sub_eq_zero_of_le hle]
    rfl
  expands := by
    rintro called ⟨resources, opened⟩ t fn description hadm hlt
    rw [Visit.decide_function hadm, decideCall_of_lt hlt]
    exact ⟨_, rfl, fun _ _ => rfl⟩

/-- **What deciding does** is to visit nodes. -/
theorem decides_traversal [CharacterNames] (config : Config) (call : Meaning F) (actor : Value) :
    Traversal config call actor (Visit.Decides config call actor)
      (Visit.decide config call actor) where
  smaller h := h.smaller
  stops h := (decides_atFunctions config call actor).stops h
  inTurn := by
    rintro ⟨called, ⟨resources, opened⟩, t, e⟩ hstop
    by_cases hadm : config.Admits (t.nodes + 1)
    case neg =>
      refine Visit.inTurn_refused (fun w h => ?_) (Visit.decide_refused call actor hadm)
      cases h <;> exact hadm ‹_›
    case pos =>
      cases e using Expr.treeInduction with
      | literal value =>
        have hv : Visit.decide config call actor ⟨called, (resources, opened), t, .literal value⟩ =
            (.ok value, t.charged) := by
          rw [Visit.decide, evaluateWithin_eq, evaluateNode, Run.outcomeFrom_charged hadm]
          rfl
        exact Visit.inTurn_none (fun w h => by cases h)
          (by rw [hv]; exact Result.not_isTooDeep_ok value) (by rw [hv]; rfl)
      | leaf e he =>
        have hv : Visit.decide config call actor ⟨called, (resources, opened), t, e⟩ =
            (evaluateLeaf config actor resources opened e, t.charged) := by
          rw [Visit.decide, evaluateWithin_eq, evaluateNode_leaf he, Run.outcomeFrom_charged hadm,
            Run.outcomeFrom_ofResult]
        exact Visit.inTurn_none (fun w h => by cases h <;> cases he)
          (by rw [hv]; exact evaluateLeaf_not_tooDeep e) (by rw [hv]; rfl)
      | function fn description => exact (decides_atFunctions config call actor).inTurn hadm hstop
      | related kind table predicate minCount => exact related_inTurn hadm kind table predicate minCount
      | not e =>
        refine Visit.inTurn_one (w := ⟨called, (resources, opened), t.charged, e⟩) (fun u => ?_)
          (!·) (Visit.decide_not hadm e)
        constructor
        · rintro (_ | _ | _ | _)
          rfl
        · rintro rfl
          exact .negation hadm
      | junction kind rules =>
        obtain ⟨ws, hws, hturn⟩ := (junction_loop kind).inTurn rules () t.charged
        refine ⟨ws, fun w => (hws w).trans ?_, ?_⟩
        · constructor
          · rintro ⟨before, e, after, rfl, t', hopen, rfl⟩
            exact .rule hadm hopen
          · rintro (_ | ⟨_, hopen⟩ | _ | _)
            exact ⟨_, _, _, rfl, _, hopen, rfl⟩
        · rw [Visit.decide_junction hadm]
          exact hturn

end Clearance
