/-
  The visits of compiling.

  * `Visit.Compiles`: to which visits a visit leads when a rule is compiled: all rules of a
    junction are visited as long as they compile, and the predicate of a related node once;
  * `compiles_traversal`: this is what compiling does.
-/
import Clearance.Proofs.Filter.Validation
import Clearance.Proofs.Limits.Visit

namespace Clearance

open Sql

variable {F : Type} {config : Config} {call : Meaning F} {d : Declarations} {actor : Value}

/-- What compiling does at a function node, with a number of further expansions allowed. -/
def compileCall (config : Config) (call : Meaning F) (d : Declarations) (actor : Value) :
    Nat → OnFunction F (List String → Run F Clause)
  | 0 => fun _ description _ => throw (.depthExceeded description config.maxFunctionDepth)
  | remaining + 1 => fun fn description opened => do
      let e ← Run.expand call actor (config.maxFunctionDepth - (remaining + 1)) fn description
      compileWithin config call d actor remaining opened e

theorem compileWithin_eq (config : Config) (call : Meaning F) (d : Declarations) (actor : Value)
    (remaining : Nat) : compileWithin config call d actor remaining =
      compileNode config d actor (compileCall config call d actor remaining) := by
  cases remaining <;> rfl

namespace Visit

/-- What a visit comes to when a rule is compiled; its place are the open tables. -/
def compile (config : Config) (call : Meaning F) (d : Declarations) (actor : Value)
    (v : Visit F (List String)) : Result Clause × Tally F :=
  (compileWithin config call d actor (config.maxFunctionDepth - v.called.length) v.place
    v.node).outcomeFrom v.tally

/-- The visits that a visit leads to when a rule is compiled, each after the visit is charged. -/
inductive Compiles (config : Config) (call : Meaning F) (d : Declarations) (actor : Value) :
    Visit F (List String) → Visit F (List String) → Prop
  | negation {called opened t e} : config.Admits (t.nodes + 1) →
      Compiles config call d actor ⟨called, opened, t, .not e⟩ ⟨called, opened, t.charged, e⟩
  | rule {called opened t kind before e after cs t'} : config.Admits (t.nodes + 1) →
      (compileAll config d actor
        (compileCall config call d actor (config.maxFunctionDepth - called.length)) opened
        before).outcomeFrom t.charged = (.ok cs, t') →
      Compiles config call d actor
        ⟨called, opened, t, .junction kind (before ++ e :: after)⟩ ⟨called, opened, t', e⟩
  | predicate {called opened t kind table predicate minCount columns owner} :
      config.Admits (t.nodes + 1) → d.table table = .ok columns → columns.owner = .ok owner →
      Compiles config call d actor ⟨called, opened, t, .related kind table predicate minCount⟩
        ⟨called, opened ++ [table], t.charged, predicate⟩
  | call {called opened t fn description e t'} : config.Admits (t.nodes + 1) →
      called.length < config.maxFunctionDepth →
      (Run.expand call actor called.length fn description).outcomeFrom t.charged = (.ok e, t') →
      Compiles config call d actor ⟨called, opened, t, .function fn description⟩
        ⟨called ++ [fn], opened, t', e⟩

theorem Compiles.smaller {v w : Visit F (List String)} (h : v.Compiles config call d actor w) :
    w.called = v.called ∧ w.node.size < v.node.size ∨
      v.called.length < config.maxFunctionDepth ∧
        ∃ fn description, v.node = .function fn description ∧ w.called = v.called ++ [fn] := by
  cases h with
  | negation => exact .inl ⟨rfl, Nat.lt_succ_self _⟩
  | @rule called opened t kind before e after =>
    exact .inl ⟨rfl, Expr.size_lt_junction kind (by simp)⟩
  | predicate => exact .inl ⟨rfl, Nat.lt_succ_self _⟩
  | call _ hlt _ => exact .inr ⟨hlt, _, _, rfl, rfl⟩

end Visit

section

variable {called : List F} {opened : List String} {t : Tally F}

/-! ## Leaves and loops -/

theorem rules_loop :
    Visit.Loop (Visit.compile config call d actor) (fun e t => ⟨called, opened, t, e⟩)
      (fun (_ : Unit) es t => (compileAll config d actor
        (compileCall config call d actor (config.maxFunctionDepth - called.length)) opened
        es).outcomeFrom t)
      (fun _ es t t' => ∃ cs, (compileAll config d actor
        (compileCall config call d actor (config.maxFunctionDepth - called.length)) opened
        es).outcomeFrom t = (.ok cs, t')) where
  tally _ _ := rfl
  nil _ t := ⟨[], rfl⟩
  opens_nil := by
    intro _ t t'
    constructor
    · rintro ⟨cs, ⟨⟩⟩
      rfl
    · rintro rfl
      exact ⟨[], rfl⟩
  fails := by
    intro _ e t err he es
    rw [Visit.compile, compileWithin_eq] at he ⊢
    simp [compileAll, Run.outcomeFrom_bind_of_error (Prod.ext he rfl)]
  next := by
    intro _ e t c he
    rw [Visit.compile, compileWithin_eq] at he ⊢
    refine .inr ⟨(), (c :: ·), fun es => ?_⟩
    rw [compileAll, Run.outcomeFrom_bind_of_ok (Prod.ext he rfl), Run.outcomeFrom_map]
    refine ⟨rfl, fun t' => ?_⟩
    generalize Run.outcomeFrom (compileAll _ _ _ _ _ es) _ = o
    obtain ⟨_ | cs, t''⟩ := o <;> simp [Except.map]

theorem Error.IsMisdeclared.not_tooDeep {err : Error} (h : err.IsMisdeclared) :
    err.category? ≠ some .functionDepthExceeded := by
  obtain ⟨category, hmem, hc⟩ := h
  intro hdeep
  rw [hc] at hdeep
  cases hdeep
  simp at hmem

/-- Compiling a leaf does not fail for the depth of functions. -/
theorem leafClause_not_tooDeep (e : Expr F) :
    ¬ (leafClause config d actor opened e).IsTooDeep := by
  refine Result.FailsOnly.not_isTooDeep ?_
  have hcolumn : ∀ p, (columnOf d opened p).FailsOnly fun err =>
      err.category? ≠ some .functionDepthExceeded := by
    exact fun p => (columnOf_failsOnly d opened p).mono fun err h => h.not_tooDeep
  have hterm : ∀ o, (termOf d opened o).FailsOnly fun err =>
      err.category? ≠ some .functionDepthExceeded := by
    intro o
    cases o with
    | path p => exact .bind (hcolumn p) fun c _ => .ok (Term.column c)
    | actor a => exact .ok _
    | scalar s => exact .ok _
  cases e with
  | comparison op left right =>
    exact .bind (hcolumn left) fun _ _ => .bind (hterm right) fun _ _ => .ok _
  | between path min max =>
    exact .bind (hcolumn path) fun _ _ => .bind (hterm min) fun _ _ => .bind (hterm max)
      fun _ _ => .ok _
  | «matches» path pattern flags =>
    refine .bind (hcolumn path) fun c _ => .bind (fun err h => ?_) fun _ _ => .ok _
    unfold patternClause at h
    split at h
    · cases h
    · split at h <;> cases h
      simp [Error.category?]
  | tenantScoped path =>
    refine .bind (hcolumn path) fun c _ => .bind ?_ fun _ _ => .ok _
    exact (lookupTenant_failsOnly _ _ _).mono fun err h => by rw [h]; simp
  | inArray | nullCheck | textMatch | belongsToTenant => exact .bind (hcolumn _) fun _ _ => .ok _
  | literal | related | not | junction | function => exact .ok _

theorem compileLeaf_outcome (config : Config) (d : Declarations) (actor : Value)
    (opened : List String) (e : Expr F) (t : Tally F) :
    ((compileLeaf config d actor opened e).outcomeFrom t).1 = leafClause config d actor opened e ∧
      ((compileLeaf config d actor opened e).outcomeFrom t).2.nodes = t.nodes := by
  have hp : ∃ t', (recordPattern config e).outcomeFrom t = (.ok (), t') ∧ t'.nodes = t.nodes := by
    cases e <;> exact ⟨_, rfl, rfl⟩
  obtain ⟨t', hp, hn⟩ := hp
  rw [compileLeaf]
  cases h : leafClause config d actor opened e with
  | error err => exact ⟨rfl, rfl⟩
  | ok c =>
    rw [Run.outcomeFrom_bind_of_ok (Run.outcomeFrom_ofResult (.ok c) t),
      Run.outcomeFrom_bind_of_ok hp]
    exact ⟨rfl, hn⟩

/-! ## Nodes -/

theorem compileCall_of_lt (hlt : called.length < config.maxFunctionDepth) (fn : F)
    (description : String) (opened : List String) :
    compileCall config call d actor (config.maxFunctionDepth - called.length) fn description
        opened = (do
      let e ← Run.expand call actor called.length fn description
      compileWithin config call d actor (config.maxFunctionDepth - (called ++ [fn]).length) opened
        e) := by
  obtain ⟨remaining, hleft, hdepth, hnext⟩ := exists_remaining hlt fn
  rw [hleft, hnext, compileCall, hdepth]

theorem Visit.compile_function (h : config.Admits (t.nodes + 1)) (fn : F) (description : String) :
    Visit.compile config call d actor ⟨called, opened, t, .function fn description⟩ =
      (compileCall config call d actor (config.maxFunctionDepth - called.length) fn description
        opened).outcomeFrom t.charged := by
  rw [Visit.compile, compileWithin_eq, ← Run.outcomeFrom_charged h]
  rfl

theorem Visit.compile_refused (call : Meaning F) (d : Declarations) (actor : Value)
    {v : Visit F (List String)} (h : ¬ config.Admits (v.tally.nodes + 1)) :
    ∃ limit, v.compile config call d actor = (.error (.budgetExceeded limit), v.tally.charged) := by
  obtain ⟨called, opened, t, e⟩ := v
  have hnode : ∃ run : Run F Clause, compileWithin config call d actor
      (config.maxFunctionDepth - called.length) opened e = (do Run.charge config; run) := by
    rw [compileWithin_eq]
    cases e using Expr.treeInduction with
    | leaf e he => exact ⟨_, compileNode_leaf he⟩
    | _ => exact ⟨_, by rw [compileNode]⟩
  obtain ⟨run, hrun⟩ := hnode
  rw [Visit.compile, hrun]
  exact Run.outcomeFrom_refused h run

theorem Visit.compile_not (h : config.Admits (t.nodes + 1)) (e : Expr F) :
    Visit.compile config call d actor ⟨called, opened, t, .not e⟩ =
      ((Visit.compile config call d actor ⟨called, opened, t.charged, e⟩).1.map Clause.negate,
        (Visit.compile config call d actor ⟨called, opened, t.charged, e⟩).2) := by
  simp only [Visit.compile, compileWithin_eq]
  rw [compileNode, Run.outcomeFrom_charged h, Run.outcomeFrom_map]

/-- The table of a related node is looked up before its predicate is visited. -/
theorem Visit.compile_related (h : config.Admits (t.nodes + 1)) (kind : RelatedKind) (table : String)
    (predicate : Expr F) (minCount : Nat) :
    Visit.compile config call d actor ⟨called, opened, t, .related kind table predicate minCount⟩ =
      match d.table table >>= Columns.owner with
      | .error err => (.error err, t.charged)
      | .ok owner =>
        ((Visit.compile config call d actor
            ⟨called, opened ++ [table], t.charged, predicate⟩).1.map (rowsClause owner · minCount),
          (Visit.compile config call d actor
            ⟨called, opened ++ [table], t.charged, predicate⟩).2) := by
  simp only [Visit.compile, compileWithin_eq]
  rw [compileNode, Run.outcomeFrom_charged h]
  cases d.table table with
  | error err => rfl
  | ok columns =>
    rw [Run.outcomeFrom_bind_of_ok (Run.outcomeFrom_ofResult _ _)]
    show _ = match columns.owner with
      | .error err => _
      | .ok owner => _
    cases columns.owner with
    | error err => rfl
    | ok owner =>
      rw [Run.outcomeFrom_bind_of_ok (Run.outcomeFrom_ofResult _ _), Run.outcomeFrom_map]

/-- A related table that is not found, or belongs to no SQL table, has nothing to do with the
    depth of functions. -/
theorem owner_not_tooDeep (table : String) : ¬ (d.table table >>= Columns.owner).IsTooDeep := by
  refine Result.FailsOnly.not_isTooDeep (.bind ?_ fun columns _ err h => ?_)
  · exact (d.declared_failsOnly table true).mono fun err h => h.not_tooDeep
  · unfold Columns.owner at h
    split at h <;> cases h
    simp [Error.category?]

end

/-- Compiling calls functions. -/
theorem compiles_atFunctions (config : Config) (call : Meaning F) (d : Declarations)
    (actor : Value) : Visit.AtFunctions config call actor (Visit.Compiles config call d actor)
      (Visit.compile config call d actor) where
  parts := by
    intro called opened t fn description w
    constructor
    · rintro (_ | _ | _ | ⟨hadm, hlt, hok⟩)
      exact ⟨hadm, hlt, _, _, hok, rfl⟩
    · rintro ⟨hadm, hlt, e, t', hok, rfl⟩
      exact .call hadm hlt hok
  tooDeep := by
    intro called opened t fn description hadm hle
    rw [Visit.compile_function hadm, Nat.sub_eq_zero_of_le hle]
    rfl
  expands := by
    intro called opened t fn description hadm hlt
    rw [Visit.compile_function hadm, compileCall_of_lt hlt]
    exact ⟨_, rfl, fun _ _ => rfl⟩

/-- **What compiling does** is to visit nodes. -/
theorem compiles_traversal (config : Config) (call : Meaning F) (d : Declarations)
    (actor : Value) :
    Traversal config call actor (Visit.Compiles config call d actor)
      (Visit.compile config call d actor) where
  smaller h := h.smaller
  stops h := (compiles_atFunctions config call d actor).stops h
  inTurn := by
    rintro ⟨called, opened, t, e⟩ hstop
    by_cases hadm : config.Admits (t.nodes + 1)
    case neg =>
      refine Visit.inTurn_refused (fun w h => ?_) (Visit.compile_refused call d actor hadm)
      cases h <;> exact hadm ‹_›
    case pos =>
      cases e using Expr.treeInduction with
      | literal value =>
        have hv : Visit.compile config call d actor ⟨called, opened, t, .literal value⟩ =
            (.ok (.truth value), t.charged) := by
          rw [Visit.compile, compileWithin_eq, compileNode, Run.outcomeFrom_charged hadm]
          rfl
        exact Visit.inTurn_none (fun w h => by cases h)
          (by rw [hv]; exact Result.not_isTooDeep_ok _) (by rw [hv]; rfl)
      | leaf e he =>
        have hv : Visit.compile config call d actor ⟨called, opened, t, e⟩ =
            (compileLeaf config d actor opened e).outcomeFrom t.charged := by
          rw [Visit.compile, compileWithin_eq, compileNode_leaf he, Run.outcomeFrom_charged hadm]
        obtain ⟨hr, hn⟩ := compileLeaf_outcome config d actor opened e t.charged
        exact Visit.inTurn_none (fun w h => by cases h <;> cases he)
          (by rw [hv, hr]; exact leafClause_not_tooDeep e) (by rw [hv, hn]; rfl)
      | function fn description => exact (compiles_atFunctions config call d actor).inTurn hadm hstop
      | related kind table predicate minCount =>
        cases ho : d.table table >>= Columns.owner with
        | error err =>
          have hv : Visit.compile config call d actor
              ⟨called, opened, t, .related kind table predicate minCount⟩ =
                (.error err, t.charged) := by
            rw [Visit.compile_related hadm, ho]
          refine Visit.inTurn_none (fun w h => ?_) ?_ (by rw [hv]; rfl)
          · cases h with
            | predicate _ ht hw =>
              rw [Result.bind_eq_ok.2 ⟨_, ht, hw⟩] at ho
              cases ho
          · rw [hv]
            rintro ⟨_, ⟨⟩, hc⟩
            exact owner_not_tooDeep table ⟨err, ho, hc⟩
        | ok owner =>
          obtain ⟨columns, ht, hw⟩ := Result.bind_eq_ok.1 ho
          refine Visit.inTurn_one (w := ⟨called, opened ++ [table], t.charged, predicate⟩)
            (fun u => ?_) (rowsClause owner · minCount) (by rw [Visit.compile_related hadm, ho])
          constructor
          · rintro (_ | _ | _ | _)
            rfl
          · rintro rfl
            exact .predicate hadm ht hw
      | not e =>
        refine Visit.inTurn_one (w := ⟨called, opened, t.charged, e⟩) (fun u => ?_)
          Clause.negate (Visit.compile_not hadm e)
        constructor
        · rintro (_ | _ | _ | _)
          rfl
        · rintro rfl
          exact .negation hadm
      | junction kind rules =>
        obtain ⟨ws, hws, hturn⟩ := rules_loop.inTurn rules () t.charged
        refine ⟨ws, fun w => (hws w).trans ?_, ?_⟩
        · constructor
          · rintro ⟨before, e, after, rfl, t', ⟨cs, hopen⟩, rfl⟩
            exact .rule hadm hopen
          · rintro (_ | ⟨_, hopen⟩ | _ | _)
            exact ⟨_, _, _, rfl, _, ⟨_, hopen⟩, rfl⟩
        · rw [Visit.compile, compileWithin_eq, compileNode, Run.outcomeFrom_charged hadm,
            Run.outcomeFrom_map]
          exact hturn.map (junctionClause kind)

end Clearance
