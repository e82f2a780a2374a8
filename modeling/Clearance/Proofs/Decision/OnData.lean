/-
  Deciding rules on data.

  Data are scalars in the columns of records, and tables of such records.  Of a rule that is built
  by operators and calls no function, a decision on data ends with a truth value, or else for one
  of the foreseen reasons: a field that the actor lacks, a path that is not open, the limit on the
  nodes.  There is one more way for it to fail: that it comes to two numbers which do not compare.

  * `Value.IsData`: resources hold nothing but data;
  * `Expr.Clashes`: a test comes to two scalars that do not compare as it asks;
    `evaluateLeaf_of_clashes` and `clashes_of_evaluateLeaf` say that it fails for its values then,
    and on data only then;
  * `Expr.Unordered`: a test is to order two scalars between which there is no order, and
    `evaluateLeaf_of_unordered` says that it does not accept them;
  * `Visit.error_on_data`: the errors of a decision, each from where it arises;
  * `Rule.evaluate_on_data`: how a decision on data can end.
-/
import Clearance.Proofs.Decision.Comparing
import Clearance.Proofs.Draft.Built
import Clearance.Proofs.Limits.Depth

namespace Clearance

open Relation

variable {F : Type} {config : Config} {call : Meaning F} {actor resources : Value}
  {opened : List String}

/-! ## Data -/

namespace Value

/-- A record of scalars, or nothing. -/
def IsRow : Value → Prop
  | .dict fields | .record fields => ∀ f ∈ fields, ∃ s, f.2 = .scalar s
  | .null => True
  | _ => False

/-- A record of scalars, or several of them. -/
inductive IsTable : Value → Prop
  | row {v} : v.IsRow → IsTable v
  | list {rows} : (∀ row ∈ rows, row.IsRow) → IsTable (.list rows)
  | tuple {rows} : (∀ row ∈ rows, row.IsRow) → IsTable (.tuple rows)

/-- Resources that map tables to records of scalars. -/
def IsData (resources : Value) : Prop :=
  ∃ tables, resources = .dict tables ∧ ∀ t ∈ tables, t.2.IsTable

theorem IsRow.field {v : Value} (h : v.IsRow) (name : String) : ∃ s, v.field name = .scalar s := by
  unfold Value.field field?
  split
  case h_3 => exact ⟨.null, rfl⟩
  all_goals
    rename_i fields
    cases hl : fields.lookup name with
    | none => exact ⟨.null, rfl⟩
    | some x => exact h _ (Keyed.mem_of_lookup hl)

theorem IsData.field (h : resources.IsData) (name : String) : (resources.field name).IsTable := by
  obtain ⟨tables, rfl, ht⟩ := h
  show ((tables.lookup name).getD .null).IsTable
  cases hl : tables.lookup name with
  | none => exact .row trivial
  | some t => exact ht _ (Keyed.mem_of_lookup hl)

/-- The rows of a table are records of scalars. -/
theorem IsData.rows (h : resources.IsData) {table : String} {rows : List Value}
    (hr : (resources.field table).rows? = some rows) : ∀ row ∈ rows, row.IsRow := by
  cases hv : resources.field table with
  | list items =>
    have ht := h.field table
    rw [hv] at ht hr
    cases hr
    cases ht with
    | row hrow => exact hrow.elim
    | list hrows => exact hrows
  | tuple items =>
    have ht := h.field table
    rw [hv] at ht hr
    cases hr
    cases ht with
    | row hrow => exact hrow.elim
    | tuple hrows => exact hrows
  | _ =>
    rw [hv] at hr
    cases hr

/-- A table of data can be bound to a row, and is data again if the row is. -/
theorem IsData.bindTable (h : resources.IsData) (table : String) : ∃ bound : Value → Value,
    (∀ row, bindTable resources table row = .ok (bound row)) ∧
      ∀ row, row.IsRow → (bound row).IsData := by
  obtain ⟨tables, rfl, ht⟩ := h
  refine ⟨_, fun row => rfl, fun row hrow => ⟨_, rfl, fun t hmem => ?_⟩⟩
  rcases Keyed.mem_setKey hmem with rfl | hmem
  · exact .row hrow
  · exact ht t hmem

end Value

/-- A column of data holds a scalar. -/
theorem readPath_data (h : resources.IsData) (p : PathRef) :
    ∃ s, readPath resources p = .scalar s := by
  have ht : (resources.field p.table).IsTable := h.field p.table
  unfold readPath
  generalize resources.field p.table = table at ht
  cases ht with
  | list | tuple => exact ⟨.null, rfl⟩
  | row hrow =>
    dsimp only
    split
    · exact ⟨.null, rfl⟩
    · exact hrow.field p.column

/-! ## Reading scalars -/

/-- A step that gives a scalar, or fails for a path. -/
def Result.GivesScalar (r : Result Value) : Prop :=
  (∃ s, r = .ok (.scalar s)) ∨ ∃ err, r = .error err ∧ err.category? = some .pathResolution

theorem Result.GivesScalar.bind_eq_invalid {r : Result Value} (h : r.GivesScalar)
    {f : Value → Result Bool} : (r >>= f) = .error .invalidOperation ↔
      ∃ s, r = .ok (.scalar s) ∧ f (.scalar s) = .error .invalidOperation := by
  rcases h with ⟨s, rfl⟩ | ⟨err, rfl, hc⟩
  · exact ⟨fun h => ⟨s, rfl, h⟩, fun ⟨_, hs, h⟩ => by cases hs; exact h⟩
  · refine ⟨fun h => ?_, fun ⟨_, hs, _⟩ => (nomatch hs)⟩
    cases h
    cases hc

theorem resolvePath_givesScalar (h : resources.IsData) (opened : List String) (p : PathRef) :
    (resolvePath resources opened p).GivesScalar := by
  obtain ⟨s, hs⟩ := readPath_data h p
  unfold resolvePath checkScope
  split
  · exact .inr ⟨_, rfl, rfl⟩
  · exact .inl ⟨s, congrArg Except.ok hs⟩

theorem resolveOperand_givesScalar (h : resources.IsData) (opened : List String) {o : Operand}
    (ho : o.IsScalar) : (resolveOperand resources opened o).GivesScalar := by
  cases o with
  | path p => exact resolvePath_givesScalar h opened p
  | actor a =>
    obtain ⟨s, hs⟩ := ho
    exact .inl ⟨s, congrArg Except.ok hs⟩
  | scalar s => exact .inl ⟨s, rfl⟩

theorem Result.ofComparison_eq_invalid {r : Except InvalidOperation Bool} :
    Result.ofComparison r = .error .invalidOperation ↔ r = .error .comparison := by
  cases r with
  | ok b => exact iff_of_false nofun nofun
  | error e => exact iff_of_true (by cases e; rfl) (by cases e; rfl)

/-! ## Tests of scalars -/

/-- A test comes to two scalars that do not compare as it asks. -/
inductive Expr.Clashes (config : Config) (actor resources : Value) (opened : List String) :
    Expr F → Prop
  | comparison {op left right a b} : resolvePath resources opened left = .ok (.scalar a) →
      resolveOperand resources opened right = .ok (.scalar b) → op.Fails a b →
      Clashes config actor resources opened (.comparison op left right)
  /-- The column is none of the constants before one with which it does not compare. -/
  | member {path before s after a} : resolvePath resources opened path = .ok (.scalar a) →
      (Value.scalar a).isIn before = .ok false → a.identical s = false → a.EqualityFails s →
      Clashes config actor resources opened (.inArray path (before ++ s :: after))
  | min {path min max a low high} : resolvePath resources opened path = .ok (.scalar a) →
      resolveOperand resources opened min = .ok (.scalar low) →
      resolveOperand resources opened max = .ok (.scalar high) → a.OrderFails low →
      Clashes config actor resources opened (.between path min max)
  /-- The column is not below the lower end, and does not compare with the upper one. -/
  | max {path min max a low high} : resolvePath resources opened path = .ok (.scalar a) →
      resolveOperand resources opened min = .ok (.scalar low) →
      resolveOperand resources opened max = .ok (.scalar high) →
      ordered .gte (.scalar a) (.scalar low) = .ok true → a.OrderFails high →
      Clashes config actor resources opened (.between path min max)
  | tenant {path tenant a} :
      lookupTenant actor path.column config.tenantNamespace = .ok (.scalar tenant) →
      resolvePath resources opened path = .ok (.scalar a) → tenant.EqualityFails a →
      Clashes config actor resources opened (.tenantScoped path)
  | actorTenant {ref path tenant a} : ref.value = .scalar tenant →
      resolvePath resources opened path = .ok (.scalar a) → tenant.EqualityFails a →
      Clashes config actor resources opened (.belongsToTenant ref path)

/-- A test is to order two scalars between which there is no order. -/
inductive Expr.Unordered (resources : Value) (opened : List String) : Expr F → Prop
  | comparison {op left right a b} : resolvePath resources opened left = .ok (.scalar a) →
      resolveOperand resources opened right = .ok (.scalar b) → op.IsOrder → ¬ a.HasOrder b →
      Unordered resources opened (.comparison op left right)
  | min {path min max a low high} : resolvePath resources opened path = .ok (.scalar a) →
      resolveOperand resources opened min = .ok (.scalar low) →
      resolveOperand resources opened max = .ok (.scalar high) → ¬ a.HasOrder low →
      Unordered resources opened (.between path min max)
  | max {path min max a low high b} : resolvePath resources opened path = .ok (.scalar a) →
      resolveOperand resources opened min = .ok (.scalar low) →
      resolveOperand resources opened max = .ok (.scalar high) →
      ordered .gte (.scalar a) (.scalar low) = .ok b → ¬ a.HasOrder high →
      Unordered resources opened (.between path min max)

/-- A test that is to order scalars without an order does not accept them. -/
theorem evaluateLeaf_of_unordered [CharacterNames] {e : Expr F} (h : e.Unordered resources opened) :
    evaluateLeaf config actor resources opened e = .ok false := by
  cases h with
  | @comparison op _ _ a b hl hr hop hn =>
    rw [evaluateLeaf, hl, hr]
    show Result.ofComparison (compareValues op (.scalar a) (.scalar b)) = .ok false
    have hc : compareValues op (.scalar a) (.scalar b) = .ok false := by
      cases op with
      | eq => exact absurd rfl hop.1
      | neq => exact absurd rfl hop.2
      | gt | lt | gte | lte => exact ordered_of_not_hasOrder hn _
    rw [hc]
    rfl
  | @min _ _ _ a low high hp hmin hmax hn =>
    rw [evaluateLeaf, hp, hmin, hmax]
    show Result.ofComparison (isBetween (.scalar a) (.scalar low) (.scalar high)) = .ok false
    rw [isBetween, ordered_of_not_hasOrder hn]
    rfl
  | @max _ _ _ a low high b hp hmin hmax hb hn =>
    rw [evaluateLeaf, hp, hmin, hmax]
    show Result.ofComparison (isBetween (.scalar a) (.scalar low) (.scalar high)) = .ok false
    rw [isBetween, hb, ordered_of_not_hasOrder hn]
    cases b <;> rfl

/-- A test that comes to scalars which do not compare fails. -/
theorem evaluateLeaf_of_clashes [CharacterNames] {e : Expr F}
    (h : e.Clashes config actor resources opened) :
    evaluateLeaf config actor resources opened e = .error .invalidOperation := by
  cases h with
  | comparison ha hb h =>
    rw [evaluateLeaf, ha, hb]
    exact Result.ofComparison_eq_invalid.2 (compareValues_eq_error.2 h)
  | @member path before s after a ha hb hi h =>
    have hne : (before ++ s :: after).isEmpty = false := by cases before <;> rfl
    rw [evaluateLeaf, hne, ha]
    exact Result.ofComparison_eq_invalid.2 (isIn_eq_error.2 ⟨before, s, after, rfl, hb, hi, h⟩)
  | min ha hl hh h =>
    rw [evaluateLeaf, ha, hl, hh]
    exact Result.ofComparison_eq_invalid.2 (isBetween_eq_error.2 (.inl h))
  | max ha hl hh hb h =>
    rw [evaluateLeaf, ha, hl, hh]
    exact Result.ofComparison_eq_invalid.2 (isBetween_eq_error.2 (.inr ⟨hb, h⟩))
  | tenant ht ha h =>
    rw [evaluateLeaf, ht, ha]
    exact Result.ofComparison_eq_invalid.2 (equalPresent_eq_error.2 h)
  | actorTenant ht ha h =>
    rw [evaluateLeaf, ha]
    refine Result.ofComparison_eq_invalid.2 ?_
    rw [ht]
    exact equalPresent_eq_error.2 h

/-- **A test of data that fails for its values** comes to two that do not compare. -/
theorem clashes_of_evaluateLeaf [CharacterNames] {e : Expr F} (hd : resources.IsData) (hf : e.Fit)
    (h : evaluateLeaf config actor resources opened e = .error .invalidOperation) :
    e.Clashes config actor resources opened := by
  have hpath : ∀ p, (resolvePath resources opened p).GivesScalar :=
    resolvePath_givesScalar hd opened
  have hoperand : ∀ {o : Operand}, o.IsScalar → (resolveOperand resources opened o).GivesScalar :=
    resolveOperand_givesScalar hd opened
  cases e with
  | comparison op left right =>
    obtain ⟨a, ha, h⟩ := (hpath left).bind_eq_invalid.1 h
    obtain ⟨b, hb, h⟩ := (hoperand hf).bind_eq_invalid.1 h
    exact .comparison ha hb (compareValues_eq_error.1 (Result.ofComparison_eq_invalid.1 h))
  | inArray path values =>
    rw [evaluateLeaf] at h
    split at h
    · cases h
    · obtain ⟨a, ha, h⟩ := (hpath path).bind_eq_invalid.1 h
      obtain ⟨before, s, after, rfl, hb, hi, h⟩ :=
        isIn_eq_error.1 (Result.ofComparison_eq_invalid.1 h)
      exact .member ha hb hi h
  | nullCheck test path =>
    obtain ⟨a, -, h⟩ := (hpath path).bind_eq_invalid.1 h
    cases h
  | textMatch test path text =>
    obtain ⟨a, -, h⟩ := (hpath path).bind_eq_invalid.1 h
    cases h
  | between path min max =>
    obtain ⟨a, ha, h⟩ := (hpath path).bind_eq_invalid.1 h
    obtain ⟨low, hl, h⟩ := (hoperand hf.1).bind_eq_invalid.1 h
    obtain ⟨high, hh, h⟩ := (hoperand hf.2).bind_eq_invalid.1 h
    rcases isBetween_eq_error.1 (Result.ofComparison_eq_invalid.1 h) with h | ⟨hb, h⟩
    · exact .min ha hl hh h
    · exact .max ha hl hh hb h
  | «matches» path pattern flags =>
    obtain ⟨program, hp⟩ := hf
    obtain ⟨a, -, h⟩ := (hpath path).bind_eq_invalid.1 h
    split at h
    · rw [Pattern.finds, hp] at h
      cases h
    · cases h
  | tenantScoped path =>
    rcases Result.bind_eq_error.1 h with h | ⟨v, hv, h⟩
    · cases lookupTenant_failsOnly _ _ _ _ h
    · obtain ⟨a, ha, h⟩ := (hpath path).bind_eq_invalid.1 h
      have h : equalPresent v (.scalar a) = .error .comparison := Result.ofComparison_eq_invalid.1 h
      cases hs : v.scalar? with
      | none =>
        rw [equalPresent_of_not_scalar hs] at h
        cases h
      | some tenant =>
        cases v <;> cases hs
        exact .tenant hv ha (equalPresent_eq_error.1 h)
  | belongsToTenant ref path =>
    obtain ⟨tenant, ht⟩ := hf
    obtain ⟨a, ha, h⟩ := (hpath path).bind_eq_invalid.1 h
    rw [ht] at h
    exact .actorTenant ht ha (equalPresent_eq_error.1 (Result.ofComparison_eq_invalid.1 h))
  | literal | function | related | not | junction => cases h

/-! ## Foreseen errors -/

/-- An error that a decision may end with: a field that the actor lacks, a path that is not open,
    or the limit on the nodes. -/
def Error.IsForeseen (err : Error) : Prop :=
  err.category? = some .missingActorField ∨ err.category? = some .pathResolution ∨
    err.category? = some .expressionBudgetExceeded

/-- A test of data fails for a foreseen reason or for its values. -/
theorem evaluateLeaf_failsOnly [CharacterNames] {e : Expr F} (hd : resources.IsData) (hf : e.Fit) :
    (evaluateLeaf config actor resources opened e).FailsOnly fun err =>
      err.IsForeseen ∨ err = .invalidOperation := by
  have hscalar : ∀ {r : Result Value}, r.GivesScalar →
      r.FailsOnly fun err => err.IsForeseen ∨ err = .invalidOperation := by
    rintro r (⟨s, rfl⟩ | ⟨err, rfl, hc⟩)
    · exact .ok _
    · exact .error (.inl (.inr (.inl hc)))
  have hpath : ∀ p, (resolvePath resources opened p).FailsOnly fun err =>
      err.IsForeseen ∨ err = .invalidOperation :=
    fun p => hscalar (resolvePath_givesScalar hd opened p)
  have hoperand : ∀ {o : Operand}, o.IsScalar → (resolveOperand resources opened o).FailsOnly
      fun err => err.IsForeseen ∨ err = .invalidOperation :=
    fun ho => hscalar (resolveOperand_givesScalar hd opened ho)
  have hvalues : ∀ r : Except InvalidOperation Bool, (Result.ofComparison r).FailsOnly
      fun err => err.IsForeseen ∨ err = .invalidOperation := by
    intro r
    cases r with
    | ok b => exact .ok b
    | error e => exact .error (.inr (by cases e; rfl))
  cases e with
  | comparison op left right =>
    exact .bind (hpath left) fun _ _ => .bind (hoperand hf) fun _ _ => hvalues _
  | inArray path values =>
    rw [evaluateLeaf]
    split
    · exact .ok false
    · exact .bind (hpath path) fun _ _ => hvalues _
  | nullCheck test path => exact .bind (hpath path) fun _ _ => .ok _
  | textMatch test path text => exact .bind (hpath path) fun _ _ => .ok _
  | between path min max =>
    exact .bind (hpath path) fun _ _ => .bind (hoperand hf.1) fun _ _ =>
      .bind (hoperand hf.2) fun _ _ => hvalues _
  | «matches» path pattern flags =>
    obtain ⟨program, hp⟩ := hf
    refine .bind (hpath path) fun v _ => ?_
    split
    · rw [Pattern.finds, hp]
      exact .ok _
    · exact .ok false
  | tenantScoped path =>
    refine .bind ?_ fun _ _ => .bind (hpath path) fun _ _ => hvalues _
    exact (lookupTenant_failsOnly _ _ _).mono fun err h => .inl (.inl h)
  | belongsToTenant a path => exact .bind (hpath path) fun _ _ => hvalues _
  | literal | related | not | junction | function => exact .ok _

/-! ## Where errors arise -/

/-- A loop fails where one of its visits does. -/
theorem Visit.Loop.exists_error {C ι σ α β : Type} {outcome : Visit F C → Result α × Tally F}
    {visit : ι → Tally F → Visit F C} {loop : σ → List ι → Tally F → Result β × Tally F}
    {opens : σ → List ι → Tally F → Tally F → Prop} (h : Loop outcome visit loop opens)
    (xs : List ι) : ∀ {s t err}, (loop s xs t).1 = .error err → ∃ before x after t',
      xs = before ++ x :: after ∧ opens s before t t' ∧
        (outcome (visit x t')).1 = .error err := by
  induction xs with
  | nil =>
    intro s t err he
    obtain ⟨b, hb⟩ := h.nil s t
    rw [hb] at he
    cases he
  | cons x xs ih =>
    intro s t err he
    cases ho : (outcome (visit x t)).1 with
    | error err' =>
      rw [(h.fails ho xs).1] at he
      cases he
      exact ⟨[], x, xs, t, rfl, h.opens_nil.2 rfl, ho⟩
    | ok a =>
      rcases h.next (s := s) ho with hend | ⟨s', f, hnext⟩
      · obtain ⟨⟨b, hb⟩, -⟩ := hend xs
        rw [hb] at he
        cases he
      · rw [(hnext xs).1] at he
        have he : (loop s' xs (outcome (visit x t)).2).1 = .error err := by
          cases hl : (loop s' xs (outcome (visit x t)).2).1 with
          | error err' => rw [hl] at he; cases he; rfl
          | ok b => rw [hl] at he; cases he
        obtain ⟨before, y, after, t', rfl, hopen, hy⟩ := ih he
        exact ⟨x :: before, y, after, t', rfl, ((hnext before).2 t').2 hopen, hy⟩

namespace Visit

/-- A visit of a test that comes to two scalars which do not compare. -/
def Clashes (config : Config) (actor : Value) (v : Visit F (Value × List String)) : Prop :=
  config.Admits (v.tally.nodes + 1) ∧ v.node.Clashes config actor v.place.1 v.place.2

/-- A visit of a test that is to order two scalars between which there is no order. -/
def Unordered (config : Config) (v : Visit F (Value × List String)) : Prop :=
  config.Admits (v.tally.nodes + 1) ∧ v.node.Unordered v.place.1 v.place.2

theorem decide_leaf [CharacterNames] {v : Visit F (Value × List String)}
    (h : config.Admits (v.tally.nodes + 1)) (he : v.node.isLeaf = true) :
    v.decide config call actor =
      (evaluateLeaf config actor v.place.1 v.place.2 v.node, v.tally.charged) := by
  rw [decide, evaluateWithin_eq, evaluateNode_leaf he, Run.outcomeFrom_charged h,
    Run.outcomeFrom_ofResult]

theorem Clashes.isLeaf {v : Visit F (Value × List String)} (h : v.Clashes config actor) :
    v.node.isLeaf = true := by
  obtain ⟨called, place, t, e⟩ := v
  cases h.2 <;> rfl

theorem Unordered.isLeaf {v : Visit F (Value × List String)} (h : v.Unordered config) :
    v.node.isLeaf = true := by
  obtain ⟨called, place, t, e⟩ := v
  cases h.2 <;> rfl

/-- **The errors of a decision on data**: a foreseen one, or one that arises where a test is visited
    that comes to two scalars which do not compare. -/
theorem error_on_data [CharacterNames] (v : Visit F (Value × List String)) {err : Error}
    (hd : v.place.1.IsData) (hs : v.node.Sound) (hf : v.node.hasFunction = false)
    (he : (v.decide config call actor).1 = .error err) :
    err.IsForeseen ∨ err = .invalidOperation ∧ ∃ w,
      ReflTransGen (Decides config call actor) v w ∧ w.Clashes config actor := by
  induction v using (decides_traversal config call actor).wellFounded.induction with
  | h v ih =>
  -- What arises at a visit that this one leads to arises from this one on.
  have hpart : ∀ {u : Visit F (Value × List String)}, Decides config call actor v u →
      u.place.1.IsData → u.node.Sound → u.node.hasFunction = false →
      (u.decide config call actor).1 = .error err →
      err.IsForeseen ∨ err = .invalidOperation ∧ ∃ w,
        ReflTransGen (Decides config call actor) v w ∧ w.Clashes config actor := by
    intro u hp hd hs hf he
    exact (ih u hp hd hs hf he).imp_right fun ⟨he, w, hr, hw⟩ => ⟨he, w, .head hp hr, hw⟩
  obtain ⟨called, ⟨resources, opened⟩, t, e⟩ := v
  by_cases hadm : config.Admits (t.nodes + 1)
  case neg =>
    obtain ⟨limit, ho⟩ := decide_refused (v := ⟨called, (resources, opened), t, e⟩) call actor hadm
    rw [ho] at he
    cases he
    exact .inl (.inr (.inr rfl))
  case pos =>
    cases e using Expr.treeInduction with
    | literal value =>
      rw [decide, evaluateWithin_eq, evaluateNode, Run.outcomeFrom_charged hadm] at he
      cases he
    | leaf e hl =>
      have hfit : e.Fit := (Expr.sound_leaf hl).1 hs
      rw [decide_leaf hadm hl] at he
      rcases evaluateLeaf_failsOnly hd hfit err he with hc | rfl
      · exact .inl hc
      · exact .inr ⟨rfl, _, .refl, hadm, clashes_of_evaluateLeaf hd hfit he⟩
    | function fn description =>
      rw [Expr.hasFunction_function] at hf
      cases hf
    | related kind table predicate minCount =>
      rw [decide_related hadm] at he
      cases minCount with
      | zero => cases he
      | succ needed =>
        cases hrows : (resources.field table).rows? with
        | none =>
          rw [hrows] at he
          cases he
        | some rows =>
          rw [hrows] at he
          obtain ⟨bound, hbound, hdata⟩ := hd.bindTable table
          obtain ⟨before, row, after, t', rfl, hopen, hrow⟩ := (rows_loop hbound).exists_error rows he
          have hmem : row ∈ before ++ row :: after := List.mem_append_right _ List.mem_cons_self
          exact hpart (.row hadm hrows hopen (hbound row)) (hdata row (hd.rows hrows row hmem))
            (Expr.sound_related.1 hs) (by rwa [Expr.hasFunction_related] at hf) hrow
    | not e =>
      have hinner : (decide config call actor ⟨called, (resources, opened), t.charged, e⟩).1 =
          .error err := by
        rw [decide_not hadm] at he
        cases ho : (decide config call actor ⟨called, (resources, opened), t.charged, e⟩).1 with
        | error err' =>
          rw [ho] at he
          cases he
          rfl
        | ok b =>
          rw [ho] at he
          cases he
      exact hpart (.negation hadm) hd (Expr.sound_not.1 hs)
        (by rwa [Expr.hasFunction_not] at hf) hinner
    | junction kind rules =>
      rw [decide_junction hadm] at he
      obtain ⟨before, e, after, t', rfl, hopen, hrule⟩ :=
        (junction_loop kind).exists_error rules (s := ()) he
      have hmem : e ∈ before ++ e :: after := List.mem_append_right _ List.mem_cons_self
      exact hpart (.rule hadm hopen) hd (Expr.sound_junction.1 hs e hmem)
        (Expr.hasFunction_junction.1 hf e hmem) hrule

end Visit

/-! ## Decisions on data -/

/-- **Data crash a decision only where numbers do not compare.**  Of a rule that is built by
    operators and calls no function, a decision on data gives a truth value or ends with a foreseen
    error, unless it visits a test that comes to two numbers which do not compare; it fails then and
    only then.  A test that is to order scalars between which there is no order is decided, and does
    not accept them. -/
theorem Rule.evaluate_on_data [CharacterNames] (config : Config) (call : Meaning F)
    (actor resources : Value) {r : Rule F} {e : Expr F} (he : r.toExpr = .ok e) (hb : e.Built)
    (hf : e.hasFunction = false) (hd : resources.IsData) :
    ((∃ b, (r.evaluate config call actor resources).result = .ok b) ∨
      (∃ err, (r.evaluate config call actor resources).result = .error err ∧ err.IsForeseen) ∨
      (r.evaluate config call actor resources).result = .error .invalidOperation) ∧
    ((r.evaluate config call actor resources).result = .error .invalidOperation ↔
      ∃ v, ReflTransGen (Visit.Decides config call actor) (.first (resources, []) e) v ∧
        v.Clashes config actor) ∧
    ∀ v, ReflTransGen (Visit.Decides config call actor) (.first (resources, []) e) v →
      v.Unordered config → (v.decide config call actor).1 = .ok false := by
  have hout : (r.evaluate config call actor resources).result =
      (Visit.decide config call actor (.first (resources, []) e)).1 :=
    congrArg Prod.fst (Rule.evaluate_outcome he)
  have herror : ∀ {err}, (Visit.decide config call actor (.first (resources, []) e)).1 =
      .error err → err.IsForeseen ∨ err = .invalidOperation ∧ ∃ w,
        ReflTransGen (Visit.Decides config call actor) (.first (resources, []) e) w ∧
          w.Clashes config actor :=
    fun h => Visit.error_on_data _ hd hb.sound hf h
  rw [hout]
  refine ⟨?_, ⟨fun h => ?_, fun ⟨v, hr, hc⟩ => ?_⟩, fun v _ hu => ?_⟩
  · cases ho : (Visit.decide config call actor (.first (resources, []) e)).1 with
    | ok b => exact .inl ⟨b, rfl⟩
    | error err =>
      rcases herror ho with hc | ⟨rfl, -⟩
      · exact .inr (.inl ⟨err, rfl, hc⟩)
      · exact .inr (.inr rfl)
  · rcases herror h with (hc | hc | hc) | ⟨-, hv⟩
    · cases hc
    · cases hc
    · cases hc
    · exact hv
  · refine (decides_traversal config call actor).error_of_reaches hr ?_
    rw [Visit.decide_leaf hc.1 hc.isLeaf]
    exact evaluateLeaf_of_clashes hc.2
  · rw [Visit.decide_leaf hu.1 hu.isLeaf]
    exact evaluateLeaf_of_unordered hu.2

/-- The posts that cost less than five. -/
def cheapPosts : Expr Empty := .comparison .lt ⟨false, "post", "price"⟩ (.scalar (.int 5))

theorem cheapPosts_built [CharacterNames] : cheapPosts.Built :=
  @Expr.Built.compare _ _ .lt (.column ⟨false, "post", "price"⟩) (.value (.int 5)) _ rfl

theorem cheapPosts_functionFree : cheapPosts.hasFunction = false := by
  simp [cheapPosts, Expr.hasFunction, Expr.walk_eq_preorder, Expr.preorder]

/-- A post with a price. -/
def pricedPost (price : Scalar) : Value := .dict [("post", .dict [("price", .scalar price)])]

theorem pricedPost_isData (price : Scalar) : (pricedPost price).IsData := by
  refine ⟨_, rfl, fun t ht => ?_⟩
  cases List.mem_singleton.1 ht
  exact .row fun f hf => ⟨price, by cases List.mem_singleton.1 hf; rfl⟩

section

attribute [local instance] CharacterNames.empty

/-- A price that is a text has no order with a number, and the post is not among the cheap ones. -/
theorem Rule.evaluate_on_data_of_text : cheapPosts.Built ∧ cheapPosts.hasFunction = false ∧
    (pricedPost (.str "free")).IsData ∧
    ((Rule.expr cheapPosts).evaluate {} (fun fn _ => fn.elim) (.dict [])
      (pricedPost (.str "free"))).result = .ok false := by
  refine ⟨cheapPosts_built, cheapPosts_functionFree, pricedPost_isData _, ?_⟩
  obtain ⟨-, -, hunordered⟩ := Rule.evaluate_on_data {} (fun fn _ => fn.elim) (.dict [])
    (pricedPost (.str "free")) (r := .expr cheapPosts) rfl cheapPosts_built cheapPosts_functionFree
    (pricedPost_isData _)
  refine (congrArg Prod.fst (Rule.evaluate_outcome rfl)).trans (hunordered _ .refl ⟨?_, ?_⟩)
  · intro limit hl
    cases hl
  · refine .comparison (a := .str "free") (b := .int 5) rfl rfl ⟨by decide, by decide⟩ ?_
    rintro (⟨h, -⟩)
    cases h

/-- A decimal price that is not a number crashes the decision. -/
theorem Rule.evaluate_crashes_on_nan : cheapPosts.Built ∧ cheapPosts.hasFunction = false ∧
    (pricedPost (.decimal (.nan false false 0 0))).IsData ∧
    ((Rule.expr cheapPosts).evaluate {} (fun fn _ => fn.elim) (.dict [])
      (pricedPost (.decimal (.nan false false 0 0)))).result = .error .invalidOperation := by
  exact ⟨cheapPosts_built, cheapPosts_functionFree, pricedPost_isData _, rfl⟩

end

end Clearance
