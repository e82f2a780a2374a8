/-
  The columns that a rule refers to are all that deciding and compiling it look at.

  * `Expr.reads` and `Expr.needs` tell the columns and the tables of the footprint of a tree,
    `Expr.footprint` cuts the resources down to it and `Declarations.keeping` the declarations to
    columns of one's choice;
  * `Value.AgreeOn`: two values hold the same under the fields that are kept, rows included; what
    is bound on the way stays in agreement (`Expr.AgreeFor.bind`), so deciding a part of the tree
    does the same on both (`evaluateNode_footprint`);
  * `Run.Keeps`: whatever one run succeeds with, the other one does; compiling keeps so with the
    fewer columns (`compileNode_keeps`);
  * `Rule.footprint_suffices` says both of a rule without functions.
-/
import Clearance.Proofs.Filter.Validation
import Clearance.Proofs.Lists

namespace Clearance

open Sql

variable {F : Type} {α β : Type}

/-! ## The footprint -/

/-- A record with some of its fields. -/
def Value.keeping (keep : String → Bool) : Value → Value
  | .dict fields => .dict (fields.filter fun f => keep f.1)
  | .record fields => .record (fields.filter fun f => keep f.1)
  | v => v

/-- A record, or each of some rows, with some of the fields. -/
def Value.cut (keep : String → Bool) : Value → Value
  | .list rows => .list (rows.map (Value.keeping keep))
  | .tuple rows => .tuple (rows.map (Value.keeping keep))
  | v => v.keeping keep

namespace Expr

/-- Whether a tree refers to a column. -/
def reads (e : Expr F) (table column : String) : Bool :=
  e.referencedColumns.contains (table, column)

/-- Whether a tree refers to a column of a table or opens the table. -/
def needs (e : Expr F) (table : String) : Bool :=
  e.referencedColumns.any (fun c => c.1 == table) || e.relatedTables.contains table

/-- The resources with nothing but what a tree refers to: the tables that it needs, and of their
    records and rows the fields that it reads. -/
def footprint (e : Expr F) : Value → Value
  | .dict tables =>
    .dict ((tables.filter fun t => e.needs t.1).map fun t => (t.1, t.2.cut (e.reads t.1)))
  | v => v

end Expr

/-- Tables with some of their columns. -/
def Tables.keeping (keep : String → String → Bool) (tables : Tables) : Tables :=
  tables.map fun t => (t.1, t.2.filter fun c => keep t.1 c.1)

/-- Declarations of the same tables with some of the columns. -/
def Declarations.keeping (d : Declarations) (keep keepRelated : String → String → Bool) :
    Declarations :=
  ⟨Tables.keeping keep d.tables, d.related.map (Tables.keeping keepRelated)⟩

/-! ## What the footprint consists of -/

namespace Expr

variable {e : Expr F}

theorem mem_referencedColumns {column : String × String} :
    column ∈ e.referencedColumns ↔ ∃ p ∈ e.paths, (p.table, p.column) = column := by
  rw [referencedColumns, mem_eraseReps, List.mem_mergeSort, List.mem_map]

theorem reads_iff {table column : String} :
    e.reads table column = true ↔ ∃ p ∈ e.paths, (p.table, p.column) = (table, column) := by
  rw [reads, List.contains_iff_mem, mem_referencedColumns]

theorem needs_iff {table : String} :
    e.needs table = true ↔ (∃ p ∈ e.paths, p.table = table) ∨ table ∈ e.relatedTables := by
  simp only [needs, Bool.or_eq_true, List.any_eq_true, beq_iff_eq, List.contains_iff_mem,
    mem_referencedColumns]
  refine or_congr_left ⟨?_, fun ⟨p, hp, ht⟩ => ⟨_, ⟨p, hp, rfl⟩, ht⟩⟩
  rintro ⟨_, ⟨p, hp, rfl⟩, ht⟩
  exact ⟨p, hp, ht⟩

end Expr

/-! ## Values that agree -/

namespace Value

/-- Two values agree on some fields: they hold the same under these, or else they are rows that
    agree one by one. -/
inductive AgreeOn (keep : String → Bool) : Value → Value → Prop
  | same (v : Value) : AgreeOn keep v v
  | record {v w : Value} : v.rows? = none → w.rows? = none →
      (∀ column, keep column = true → v.field column = w.field column) → AgreeOn keep v w
  | rows {v w : Value} {rows rows' : List Value} : v.rows? = some rows → w.rows? = some rows' →
      List.Forall₂ (AgreeOn keep) rows rows' → AgreeOn keep v w

theorem AgreeOn.keeping (keep : String → Bool) (v : Value) :
    AgreeOn keep (v.keeping keep) v := by
  cases v with
  | dict fields | record fields =>
    refine .record rfl rfl fun column h => ?_
    rw [field, field, Value.keeping, field?, field?, Keyed.lookup_filter h]
  | _ => exact .same _

/-- What is cut down agrees with what it was on the fields that are kept. -/
theorem AgreeOn.cut (keep : String → Bool) (v : Value) : AgreeOn keep (v.cut keep) v := by
  have hrows : ∀ rows : List Value,
      List.Forall₂ (AgreeOn keep) (rows.map (Value.keeping keep)) rows := fun rows =>
    List.forall₂_map_left_iff.2 (List.forall₂_same.2 fun row _ => .keeping keep row)
  unfold Value.cut
  split
  · exact .rows rfl rfl (hrows _)
  · exact .rows rfl rfl (hrows _)
  · exact .keeping keep v

variable {keep : String → Bool} {v w : Value}

theorem AgreeOn.rows?_rel (h : AgreeOn keep v w) :
    Option.Rel (List.Forall₂ (AgreeOn keep)) v.rows? w.rows? := by
  cases h with
  | same =>
    cases v.rows? with
    | none => exact .none
    | some rows => exact .some (List.forall₂_same.2 fun row _ => .same row)
  | record hv hw => rw [hv, hw]; exact .none
  | rows hv hw hr => rw [hv, hw]; exact .some hr

end Value

/-- The resources are mappings that agree on what a tree refers to. -/
def Expr.AgreeFor (e : Expr F) (resources resources' : Value) : Prop :=
  ∃ fields fields', resources = .dict fields ∧ resources' = .dict fields' ∧
    ∀ table, e.needs table = true →
      (resources.field table).AgreeOn (e.reads table) (resources'.field table)

namespace Expr.AgreeFor

variable {e : Expr F} {resources resources' : Value}

theorem footprint (e : Expr F) (tables : List (String × Value)) :
    e.AgreeFor (e.footprint (.dict tables)) (.dict tables) := by
  refine ⟨_, _, rfl, rfl, fun table h => ?_⟩
  show Value.AgreeOn _ ((((tables.filter fun t => e.needs t.1).map fun t =>
    (t.1, t.2.cut (e.reads t.1))).lookup table).getD .null) ((tables.lookup table).getD .null)
  rw [Keyed.lookup_map fun table (v : Value) => v.cut (e.reads table),
    Keyed.lookup_filter h]
  cases tables.lookup table with
  | none => exact .same _
  | some v => exact .cut _ v

theorem field (h : e.AgreeFor resources resources') {table : String} (ht : e.needs table = true) :
    (resources.field table).AgreeOn (e.reads table) (resources'.field table) := by
  obtain ⟨fields, fields', rfl, rfl, h⟩ := h
  exact h table ht

theorem readPath (h : e.AgreeFor resources resources') {p : PathRef} (hp : p ∈ e.paths) :
    Clearance.readPath resources p = Clearance.readPath resources' p := by
  have ht := h.field (needs_iff.2 (.inl ⟨p, hp, rfl⟩))
  rw [Clearance.readPath, Clearance.readPath]
  generalize resources.field p.table = v, resources'.field p.table = w at ht ⊢
  cases ht with
  | same => rfl
  | record hv hw hf => rw [hv, hw]; exact hf p.column (reads_iff.2 ⟨p, hp, rfl⟩)
  | rows hv hw => rw [hv, hw]; rfl

/-- Binding a table to rows that agree leaves the resources in agreement. -/
theorem bind (h : e.AgreeFor resources resources') {table : String} {row row' : Value}
    (hr : row.AgreeOn (e.reads table) row') :
    ∃ bound bound', bindTable resources table row = .ok bound ∧
      bindTable resources' table row' = .ok bound' ∧ e.AgreeFor bound bound' := by
  obtain ⟨fields, fields', rfl, rfl, h⟩ := h
  refine ⟨_, _, rfl, rfl, _, _, rfl, rfl, fun other ho => ?_⟩
  show Value.AgreeOn _ (((Keyed.setKey table row fields).lookup other).getD .null)
    (((Keyed.setKey table row' fields').lookup other).getD .null)
  by_cases e : other = table
  · subst e
    rw [Keyed.lookup_setKey_self, Keyed.lookup_setKey_self]
    exact hr
  · rw [Keyed.lookup_setKey_of_ne e, Keyed.lookup_setKey_of_ne e]
    exact h other ho

end Expr.AgreeFor

/-! ## Deciding on what agrees -/

section

variable {config : Config} {actor : Value}

theorem countRows_congr {m : Type → Type} [Monad m] {p p' : Value → m Bool}
    {rows rows' : List Value} (h : List.Forall₂ (fun row row' => p row = p' row') rows rows') :
    ∀ needed, countRows needed p rows = countRows needed p' rows' := by
  induction h with
  | nil => exact fun needed => rfl
  | cons hrow _ ih =>
    intro needed
    rw [countRows, countRows, hrow, ih, ih]

/-- A leaf looks at the resources under its own paths only. -/
theorem evaluateLeaf_congr [CharacterNames] {e : Expr F} {resources resources' : Value}
    {opened : List String}
    (hpath : ∀ p ∈ e.nodePaths,
      resolvePath resources opened p = resolvePath resources' opened p) :
    evaluateLeaf config actor resources opened e =
      evaluateLeaf config actor resources' opened e := by
  have hoperand : ∀ o : Operand, (∀ p ∈ o.path?, p ∈ e.nodePaths) →
      resolveOperand resources opened o = resolveOperand resources' opened o := fun o ho => by
    cases o with
    | path p => exact hpath p (ho p rfl)
    | _ => rfl
  cases e with
  | comparison op left right =>
    rw [evaluateLeaf, evaluateLeaf, hpath left (by simp [Expr.nodePaths]),
      hoperand right fun p hp => by simp [Expr.nodePaths, Option.mem_def.1 hp]]
  | between path min max =>
    rw [evaluateLeaf, evaluateLeaf, hpath path (by simp [Expr.nodePaths]),
      hoperand min fun p hp => by simp [Expr.nodePaths, Option.mem_def.1 hp],
      hoperand max fun p hp => by simp [Expr.nodePaths, Option.mem_def.1 hp]]
  | inArray path _ | nullCheck _ path | textMatch _ path _ | «matches» path _ _
  | tenantScoped path | belongsToTenant _ path =>
    rw [evaluateLeaf, evaluateLeaf, hpath path (by simp [Expr.nodePaths])]
  | _ => rfl

theorem evaluateJunction_congr [CharacterNames]
    {onFunction : OnFunction F (Value → List String → Run F Bool)} {resources resources' : Value}
    {opened : List String} {kind : Junction} {es : List (Expr F)}
    (h : ∀ e ∈ es, evaluateNode config actor onFunction resources opened e =
      evaluateNode config actor onFunction resources' opened e) :
    evaluateJunction config actor onFunction resources opened kind es =
      evaluateJunction config actor onFunction resources' opened kind es := by
  induction es with
  | nil => rw [evaluateJunction, evaluateJunction]
  | cons e rest ih =>
    rw [evaluateJunction, evaluateJunction, h e (by simp), ih fun e he => h e (by simp [he])]

/-- Deciding a part of a tree does the same on resources that agree on what the tree refers to. -/
theorem evaluateNode_footprint [CharacterNames] {e : Expr F}
    (onFunction : OnFunction F (Value → List String → Run F Bool)) (part : Expr F)
    (hf : part.hasFunction = false) (hp : ∀ p ∈ part.paths, p ∈ e.paths)
    (ht : ∀ table ∈ part.relatedTables, table ∈ e.relatedTables) :
    ∀ resources resources' opened, e.AgreeFor resources resources' →
      evaluateNode config actor onFunction resources opened part =
        evaluateNode config actor onFunction resources' opened part := by
  induction part using Expr.treeInduction with
  | literal value => intro resources resources' opened _; rw [evaluateNode, evaluateNode]
  | leaf part hleaf =>
    intro resources resources' opened h
    rw [evaluateNode_leaf hleaf, evaluateNode_leaf hleaf, evaluateLeaf_congr fun p hn => ?_]
    rw [resolvePath, resolvePath, h.readPath (hp p (by rwa [Expr.paths_leaf hleaf]))]
  | function fn description =>
    rw [Expr.hasFunction_function] at hf
    cases hf
  | related kind table predicate minCount ih =>
    intro resources resources' opened h
    rw [Expr.hasFunction_related] at hf
    rw [Expr.paths_related] at hp
    rw [Expr.relatedTables_related] at ht
    have hrows := (h.field (Expr.needs_iff.2 (.inr (ht table (by simp))))).rows?_rel
    rw [evaluateNode, evaluateNode]
    congr 1
    funext _
    split
    · rfl
    · generalize (resources.field table).rows? = rows?, (resources'.field table).rows? = rows?'
        at hrows ⊢
      cases hrows with
      | none => rfl
      | some hrows =>
        refine countRows_congr (hrows.imp fun row row' hrow => ?_) minCount
        obtain ⟨bound, bound', hb, hb', hagree⟩ := h.bind hrow
        rw [hb, hb']
        exact ih hf hp (fun name hn => ht name (List.mem_cons_of_mem _ hn)) _ _ _ hagree
  | not part ih =>
    intro resources resources' opened h
    rw [Expr.hasFunction_not] at hf
    rw [Expr.paths_not] at hp
    rw [Expr.relatedTables_not] at ht
    rw [evaluateNode, evaluateNode, ih hf hp ht _ _ _ h]
  | junction kind rules ih =>
    intro resources resources' opened h
    rw [evaluateNode, evaluateNode, evaluateJunction_congr fun part hpart => ?_]
    exact ih part hpart (Expr.hasFunction_junction.1 hf part hpart)
      (fun p hm => hp p (Expr.mem_paths_junction.2 ⟨part, hpart, hm⟩))
      (fun table hm => ht table (Expr.mem_relatedTables_junction.2 ⟨part, hpart, hm⟩)) _ _ _ h

end

/-! ## Compiling with fewer columns -/

namespace Run

variable {run run' : Run F α}

/-- What one run succeeds with, and records, another one does as well. -/
def Keeps (run run' : Run F α) : Prop :=
  ∀ t a t', run.outcomeFrom t = (.ok a, t') → run'.outcomeFrom t = (.ok a, t')

namespace Keeps

theorem refl (run : Run F α) : Keeps run run := fun _ _ _ h => h

theorem ofResult {r r' : Result α} (h : ∀ a, r = .ok a → r' = .ok a) :
    Keeps (ofResult r : Run F α) (ofResult r') := by
  intro t a t' hr
  rw [outcomeFrom_ofResult, Prod.mk.injEq] at hr ⊢
  exact ⟨h a hr.1, hr.2⟩

theorem bind {f f' : α → Run F β} (hr : Keeps run run') (hf : ∀ a, Keeps (f a) (f' a)) :
    Keeps (run >>= f) (run' >>= f') := by
  intro t b t' h
  cases hrun : run.outcomeFrom t with
  | mk r t₁ =>
    cases r with
    | error err => rw [outcomeFrom_bind_of_error hrun] at h; cases h
    | ok a =>
      rw [outcomeFrom_bind_of_ok hrun] at h
      rw [outcomeFrom_bind_of_ok (hr _ _ _ hrun)]
      exact hf a _ _ _ h

theorem charged {config : Config} (h : Keeps run run') :
    Keeps (do Run.charge config; run) (do Run.charge config; run') :=
  bind (refl _) fun _ => h

end Keeps

end Run

/-- All columns that belong to a SQL table belong to the same one. -/
def Columns.HaveOneOwner (columns : Columns) : Prop :=
  ∀ c ∈ columns, ∀ c' ∈ columns, ∀ owner owner', c.2.column.table = some owner →
    c'.2.column.table = some owner' → owner = owner'

/-- What is declared from a SQL table belongs to this table. -/
theorem haveOneOwner_tableColumns (table : String) (columns : List (String × ColumnType))
    (isMapped : Bool) : (tableColumns table columns isMapped).HaveOneOwner := by
  have h : ∀ c ∈ tableColumns table columns isMapped, c.2.column.table = some table := by
    intro c hc
    obtain ⟨entry, -, rfl⟩ := List.mem_map.1 hc
    rfl
  intro c hc c' hc' owner owner' ho ho'
  rw [h c hc] at ho
  rw [h c' hc'] at ho'
  exact Option.some.inj (ho.symm.trans ho')

/-- The columns that a tree refers to are kept, and so is, of the columns of each related table
    that it opens, one that belongs to a SQL table. -/
structure Declarations.KeptFor (e : Expr F) (d : Declarations)
    (keep keepRelated : String → String → Bool) : Prop where
  column : ∀ c ∈ e.referencedColumns, keep c.1 c.2 = true ∧ keepRelated c.1 c.2 = true
  owner : ∀ table ∈ e.relatedTables, ∀ columns,
    (d.keeping keep keepRelated).table table = .ok columns →
      ∃ c ∈ columns, ∃ owner, c.2.column.table = some owner

theorem Columns.exists_of_owner {columns : Columns} {owner : String}
    (h : columns.owner = .ok owner) : ∃ c ∈ columns, c.2.column.table = some owner := by
  unfold Columns.owner at h
  split at h
  · rename_i table ht
    cases h
    exact List.exists_of_findSome?_eq_some ht
  · cases h

/-- The owner of columns is the owner of any of them that belong to a SQL table at all. -/
theorem Columns.HaveOneOwner.owner_of_subset {columns columns' : Columns} {owner : String}
    (h : columns.HaveOneOwner) (hs : ∀ c ∈ columns', c ∈ columns) (ho : columns.owner = .ok owner)
    (hb : ∃ c ∈ columns', ∃ owner, c.2.column.table = some owner) :
    columns'.owner = .ok owner := by
  obtain ⟨c, hc, ho⟩ := Columns.exists_of_owner ho
  obtain ⟨owner', ho'⟩ := Columns.exists_owner hb
  obtain ⟨c', hc', hc''⟩ := Columns.exists_of_owner ho'
  rw [ho', h c hc c' (hs c' hc') owner owner' ho hc'']

section

variable {config : Config} {actor : Value} {d : Declarations}
  {keep keepRelated : String → String → Bool}

theorem Tables.lookup_keeping (keep : String → String → Bool) (tables : Tables) (name : String) :
    (tables.keeping keep).lookup name =
      (tables.lookup name).map fun columns => columns.filter fun c => keep name c.1 :=
  Keyed.lookup_map
    (fun name (columns : Columns) => columns.filter fun c : String × Handle => keep name c.1) tables
    name

theorem Declarations.Finds.keeping {name : String} {isScoped : Bool} {columns : Columns}
    (h : d.Finds name isScoped columns) (keep keepRelated : String → String → Bool) :
    ∃ k, (k = keep ∨ k = keepRelated) ∧ (d.keeping keep keepRelated).Finds name isScoped
      (columns.filter fun c => k name c.1) := by
  cases h with
  | subject ht =>
    refine ⟨keep, .inl rfl, .subject ?_⟩
    rw [Declarations.keeping, Tables.lookup_keeping, ht, Option.map_some]
  | related hr ht =>
    refine ⟨keepRelated, .inr rfl, .related (by rw [Declarations.keeping, hr, Option.map_some]) ?_⟩
    rw [Tables.lookup_keeping, ht, Option.map_some]
  | other hr ht =>
    refine ⟨keep, .inl rfl, .other (fun tables h => ?_) ?_⟩
    · obtain ⟨related, hrel, rfl⟩ := Option.map_eq_some_iff.1 h
      rw [Tables.lookup_keeping, hr related hrel, Option.map_none]
    · rw [Declarations.keeping, Tables.lookup_keeping, ht, Option.map_some]

namespace Declarations.KeptFor

variable {e : Expr F}

theorem columnOf (h : d.KeptFor e keep keepRelated) {p : PathRef} (hp : p ∈ e.paths)
    {opened : List String} {c : Column} (hc : columnOf d opened p = .ok c) :
    Clearance.columnOf (d.keeping keep keepRelated) opened p = .ok c := by
  obtain ⟨hscope, handle, ⟨columns, hf, hl⟩, hh⟩ := columnOf_eq_ok.1 hc
  obtain ⟨k, hk, hf'⟩ := hf.keeping keep keepRelated
  refine columnOf_eq_ok.2 ⟨hscope, handle, ⟨_, hf', ?_⟩, hh⟩
  have hkept : k p.table p.column = true := by
    have hboth := h.column _ (Expr.mem_referencedColumns.2 ⟨p, hp, rfl⟩)
    rcases hk with rfl | rfl
    · exact hboth.1
    · exact hboth.2
  exact (Keyed.lookup_filter hkept columns).trans hl

theorem owner_eq (h : d.KeptFor e keep keepRelated) {table : String}
    (ht : table ∈ e.relatedTables)
    (hone : ∀ columns, d.table table = .ok columns → columns.HaveOneOwner)
    {owner : String} (ho : (do (← d.table table).owner) = .ok owner) :
    (do (← (d.keeping keep keepRelated).table table).owner) = .ok owner := by
  obtain ⟨columns, hc, ho⟩ := Result.bind_eq_ok.1 ho
  obtain ⟨k, -, hf⟩ := (declared_eq_ok.1 hc).keeping keep keepRelated
  have hc' := declared_eq_ok.2 hf
  exact Result.bind_eq_ok.2 ⟨_, hc', (hone columns hc).owner_of_subset
    (fun c hm => (List.mem_filter.1 hm).1) ho (h.owner table ht _ hc')⟩

end Declarations.KeptFor

/-- A leaf looks up its own paths only. -/
theorem leafClause_congr {d d' : Declarations} {opened : List String} {e : Expr F}
    (h : ∀ p ∈ e.nodePaths, columnOf d opened p = columnOf d' opened p) :
    leafClause config d actor opened e = leafClause config d' actor opened e := by
  have hterm : ∀ o : Operand, (∀ p ∈ o.path?, p ∈ e.nodePaths) →
      termOf d opened o = termOf d' opened o := fun o ho => by
    cases o with
    | path p => rw [termOf, termOf, h p (ho p rfl)]
    | _ => rfl
  cases e with
  | comparison op left right =>
    rw [leafClause, leafClause, h left (by simp [Expr.nodePaths]),
      hterm right fun p hp => by simp [Expr.nodePaths, Option.mem_def.1 hp]]
  | between path min max =>
    rw [leafClause, leafClause, h path (by simp [Expr.nodePaths]),
      hterm min fun p hp => by simp [Expr.nodePaths, Option.mem_def.1 hp],
      hterm max fun p hp => by simp [Expr.nodePaths, Option.mem_def.1 hp]]
  | inArray path _ | nullCheck _ path | textMatch _ path _ | «matches» path _ _
  | tenantScoped path | belongsToTenant _ path =>
    rw [leafClause, leafClause, h path (by simp [Expr.nodePaths])]
  | _ => rfl

theorem compileAll_keeps {d d' : Declarations}
    {onFunction onFunction' : OnFunction F (List String → Run F Clause)}
    {opened : List String} {es : List (Expr F)}
    (h : ∀ e ∈ es, Run.Keeps (compileNode config d actor onFunction opened e)
      (compileNode config d' actor onFunction' opened e)) :
    Run.Keeps (compileAll config d actor onFunction opened es)
      (compileAll config d' actor onFunction' opened es) := by
  induction es with
  | nil => rw [compileAll, compileAll]; exact .refl _
  | cons e rest ih =>
    rw [compileAll, compileAll]
    exact (h e (by simp)).bind fun c => (ih fun e he => h e (by simp [he])).bind fun cs => .refl _

/-- The owner of a related table is looked up in one step. -/
theorem compileNode_related (config : Config) (d : Declarations) (actor : Value)
    (onFunction : OnFunction F (List String → Run F Clause)) (opened : List String)
    (kind : RelatedKind) (table : String) (predicate : Expr F) (minCount : Nat) :
    compileNode config d actor onFunction opened (.related kind table predicate minCount) = (do
      Run.charge config
      let owner ← Run.ofResult (do (← d.table table).owner)
      let p ← compileNode config d actor onFunction (opened ++ [table]) predicate
      return rowsClause owner p minCount) := by
  rw [compileNode]
  cases d.table table <;> rfl

/-- Compiling a part of a tree does the same with the columns that are kept for the tree. -/
theorem compileNode_keeps {e : Expr F} (hk : d.KeptFor e keep keepRelated)
    (hone : ∀ table ∈ e.relatedTables, ∀ columns,
      d.table table = .ok columns → columns.HaveOneOwner)
    (onFunction onFunction' : OnFunction F (List String → Run F Clause)) (part : Expr F)
    (hf : part.hasFunction = false) (hp : ∀ p ∈ part.paths, p ∈ e.paths)
    (ht : ∀ table ∈ part.relatedTables, table ∈ e.relatedTables) :
    ∀ opened, Run.Keeps (compileNode config d actor onFunction opened part)
      (compileNode config (d.keeping keep keepRelated) actor onFunction' opened part) := by
  induction part using Expr.treeInduction with
  | literal value => intro opened; rw [compileNode, compileNode]; exact .refl _
  | leaf part hleaf =>
    intro opened
    rw [compileNode_leaf hleaf, compileNode_leaf hleaf]
    refine .charged (.bind (.ofResult fun c hc => ?_) fun c => .refl _)
    rw [← leafClause_congr fun p hn => ?_, hc]
    obtain ⟨column, hcol⟩ := leafClause_columnOf hc p hn
    rw [hcol, hk.columnOf (hp p (by rwa [Expr.paths_leaf hleaf])) hcol]
  | function fn description =>
    rw [Expr.hasFunction_function] at hf
    cases hf
  | related kind table predicate minCount ih =>
    intro opened
    rw [Expr.hasFunction_related] at hf
    rw [Expr.paths_related] at hp
    rw [Expr.relatedTables_related] at ht
    have htable := ht table (by simp)
    rw [compileNode_related, compileNode_related]
    refine .charged (.bind (.ofResult fun owner => hk.owner_eq htable (hone table htable)) ?_)
    intro owner
    have hpart := ih hf hp (fun name hn => ht name (List.mem_cons_of_mem _ hn)) (opened ++ [table])
    exact hpart.bind fun p => .refl _
  | not part ih =>
    intro opened
    rw [Expr.hasFunction_not] at hf
    rw [Expr.paths_not] at hp
    rw [Expr.relatedTables_not] at ht
    rw [compileNode, compileNode]
    exact .charged (.bind (ih hf hp ht opened) fun p => .refl _)
  | junction kind rules ih =>
    intro opened
    rw [compileNode, compileNode]
    refine .charged (.bind (compileAll_keeps fun part hpart => ?_) fun cs => .refl _)
    exact ih part hpart (Expr.hasFunction_junction.1 hf part hpart)
      (fun p hm => hp p (Expr.mem_paths_junction.2 ⟨part, hpart, hm⟩))
      (fun table hm => ht table (Expr.mem_relatedTables_junction.2 ⟨part, hpart, hm⟩)) opened

end

/-! ## Rules -/

/-- **The columns that a rule refers to are all that it takes to decide and to compile it.**  For a
    rule without functions: cutting the resources down to the footprint changes nothing about how
    it is decided, and if it is compiled, then with its columns alone to the same filter, if each
    related table that it opens is left a column of the SQL table that its columns belong to. -/
theorem Rule.footprint_suffices [CharacterNames] (config : Config) (call : Meaning F)
    (actor : Value) {r : Rule F} {e : Expr F} (hr : r.toExpr = .ok e) (hf : e.hasFunction = false) :
    (∀ tables, r.evaluate config call actor (e.footprint (.dict tables)) =
      r.evaluate config call actor (.dict tables)) ∧
    ∀ d keep keepRelated, d.KeptFor e keep keepRelated →
      (∀ table ∈ e.relatedTables, ∀ columns, d.table table = .ok columns → columns.HaveOneOwner) →
      ∀ c, (r.compile config call d actor).result = .ok c →
        (r.compile config call (d.keeping keep keepRelated) actor).outcome =
          (r.compile config call d actor).outcome := by
  refine ⟨fun tables => ?_, fun d keep keepRelated hk hone c hc => ?_⟩
  · have hagree := Expr.AgreeFor.footprint e tables
    rw [Rule.evaluate, Rule.evaluate, hr]
    show e.evaluate config call actor _ = e.evaluate config call actor _
    unfold Expr.evaluate
    cases config.maxFunctionDepth <;>
      exact evaluateNode_footprint _ e hf (fun _ h => h) (fun _ h => h) _ _ _ hagree
  · have hkeeps : Run.Keeps (r.compile config call d actor)
        (r.compile config call (d.keeping keep keepRelated) actor) := by
      rw [Rule.compile, Rule.compile, hr]
      show Run.Keeps (e.compile config call d actor) (e.compile config call _ actor)
      unfold Expr.compile
      cases config.maxFunctionDepth <;>
        exact compileNode_keeps hk hone _ _ e hf (fun _ h => h) (fun _ h => h) _
    have hrun : (r.compile config call d actor).outcome =
        (.ok c, (r.compile config call d actor).outcome.2) := Prod.ext hc rfl
    exact (hkeeps {} c _ hrun).trans hrun.symm

section

attribute [local instance] CharacterNames.empty

/-- Items that have the number one and a note on them: the owner of an item, the number of a note
    and the likes are not looked at, and the two columns that are give the same filter. -/
theorem Rule.footprint_suffices_of_notes :
    let e : Expr Empty := .junction .and
      [.comparison .eq ⟨false, "item", "id"⟩ (.scalar (.int 1)),
        .related .exists "notes"
          (.comparison .eq ⟨true, "notes", "item_id"⟩ (.path ⟨false, "item", "id"⟩)) 1]
    let all : Value := .dict [("item", .dict [("id", .int 1), ("owner_id", .int 7)]),
      ("notes", .list [.dict [("id", .int 5), ("item_id", .int 1)]]), ("likes", .list [])]
    let some : Value := .dict [("item", .dict [("id", .int 1)]),
      ("notes", .list [.dict [("item_id", .int 1)]])]
    let read (table column : String) : Bool := [("item", "id"), ("notes", "item_id")].contains
      (table, column)
    ((Rule.expr e).evaluate {} noFunctions .null some).result =
      ((Rule.expr e).evaluate {} noFunctions .null all).result ∧
    ((Rule.expr e).compile {} noFunctions (itemTables.keeping read read) .null).outcome =
      ((Rule.expr e).compile {} noFunctions itemTables .null).outcome := by
  intro e all some read
  have hpaths : e.paths =
      [⟨false, "item", "id"⟩, ⟨true, "notes", "item_id"⟩, ⟨false, "item", "id"⟩] := by
    rw [← Expr.map_references_eq_paths []]
    rfl
  have htables : e.relatedTables = ["notes"] := by
    rw [Expr.relatedTables, Expr.walk_eq_preorder]
    rfl
  have hreads : e.reads = read := by
    funext table column
    rw [Bool.eq_iff_iff, Expr.reads_iff, hpaths, List.contains_iff_mem]
    simp only [List.mem_cons, List.not_mem_nil, or_false, exists_eq_or_imp, exists_eq_left]
    grind
  have hcolumns : ∀ c ∈ e.referencedColumns, read c.1 c.2 = true := fun c hc => by
    rw [← hreads]
    exact List.contains_iff_mem.2 hc
  have hneeds : ∀ table, e.needs table = (table == "item" || table == "notes") := fun table => by
    rw [Bool.eq_iff_iff, Expr.needs_iff, hpaths, htables]
    simp only [List.mem_cons, List.not_mem_nil, or_false, exists_eq_or_imp, exists_eq_left]
    grind
  have hcut : e.footprint all = some := by
    simp only [all, Expr.footprint, hneeds, hreads]
    rfl
  obtain ⟨hdecide, hcompile⟩ :=
    Rule.footprint_suffices {} noFunctions .null (r := .expr e) rfl (by
      rw [Expr.hasFunction, Expr.walk_eq_preorder]; rfl)
  refine ⟨congrArg Run.result (hcut ▸ hdecide _), hcompile itemTables read read
    ⟨fun c hc => ⟨hcolumns c hc, hcolumns c hc⟩, ?_⟩ ?_ _ rfl⟩ <;>
    rw [htables] <;> intro table ht columns hc <;> rw [List.mem_singleton.1 ht] at hc
  · cases (show Except.ok [("item_id", ⟨⟨"item_id", _, _⟩, false⟩)] = Except.ok columns from hc)
    exact ⟨_, List.mem_cons_self, "notes", rfl⟩
  · cases (show Except.ok (tableColumns "notes" _ false) = Except.ok columns from hc)
    exact haveOneOwner_tableColumns _ _ _

end

end Clearance
