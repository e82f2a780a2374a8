/-
  Rules that are drawn from a schema.

  A schema is checked when a name is added to a capture, and not again.  So it has to go along with
  every stage of a capture: from the subject to its tables, to a table with the columns of the row at
  hand, and to the row that a predicate is written for.  It does, and so whatever a capture ends in
  keeps to the schema, and so do the rules that operators build from such captures.  Only a finished
  reference to a table has no schema to go along with, for the row that is handed out for it.

  * `Schema.Names` and `Schema.Lists`: the tables and columns of a schema;
  * `Argument.Drawn`: the ways in which an argument is got under a schema, and `Expr.Drawn`: rules
    that are built from such arguments; `Argument.IsCapture` tells for which tables a row that is
    handed out is checked;
  * `Argument.Within` and `Expr.Within`: what keeps to a schema; `Argument.Drawn.within` and
    `Expr.Drawn.within` say that what is drawn from a schema does;
  * `Argument.Leaves`: names that leave a schema; `Argument.chain_of_leaves` says that they are
    refused as they are added.
-/
import Clearance.Proofs.Draft.Built
import Clearance.Proofs.Rule.Plain
import Clearance.Proofs.Rule.Tree

namespace Clearance

variable {F : Type}

/-! ## Schemas -/

namespace Schema

/-- A schema has a table. -/
def Names (S : Schema) (table : String) : Prop := (S.lookup table).isSome = true

/-- A schema has a column, in a table whose columns are known. -/
def Lists (S : Schema) (table column : String) : Prop :=
  ∃ columns, S.lookup table = some (some columns) ∧ column ∈ columns

/-- The columns of all tables are known. -/
def IsComplete (S : Schema) : Prop :=
  ∀ table columns?, S.lookup table = some columns? → ∃ columns, columns? = some columns

variable {S : Schema} {table column : String}

theorem IsComplete.columns (h : S.IsComplete) (ht : S.Names table) :
    ∃ columns, S.lookup table = some (some columns) := by
  obtain ⟨columns?, hl⟩ := Option.isSome_iff_exists.1 ht
  obtain ⟨columns, rfl⟩ := h table columns? hl
  exact ⟨columns, hl⟩

theorem Lists.names (h : S.Lists table column) : S.Names table := by
  obtain ⟨columns, hl, -⟩ := h
  rw [Names, hl]
  rfl

/-- Data tell the columns of each table that they list. -/
theorem isComplete_of_data {tables : List (String × Value)}
    (h : (SchemaSource.data (.dict tables)).schema? = .ok (some S)) : S.IsComplete := by
  obtain ⟨S', hS, h⟩ := Result.bind_eq_ok.1 h
  cases h
  have hall : ∀ entry ∈ S, ∃ columns, entry.2 = some columns := by
    clear h
    induction tables generalizing S with
    | nil => cases hS; exact nofun
    | cons t rest ih =>
      rw [List.mapM_cons] at hS
      obtain ⟨entry, hentry, hS⟩ := Result.bind_eq_ok.1 hS
      obtain ⟨entries, hentries, hS⟩ := Result.bind_eq_ok.1 hS
      cases hS
      obtain ⟨columns, -, hentry⟩ := Result.bind_eq_ok.1 hentry
      cases hentry
      exact List.forall_mem_cons.2 ⟨⟨columns, rfl⟩, ih hentries⟩
  exact fun table columns? hl => hall _ (Keyed.mem_of_lookup hl)

end Schema

section

variable {S : Schema} {table column : String}

theorem checkTable_eq_ok : checkTable (some S) table = .ok () ↔ S.Names table := by
  unfold checkTable Schema.Names
  dsimp only
  cases (S.lookup table).isSome with
  | true => exact iff_of_true rfl rfl
  | false => exact iff_of_false nofun nofun

theorem checkColumn_eq_ok (h : S.IsComplete) (ht : S.Names table) :
    checkColumn (some S) table column = .ok () ↔ S.Lists table column := by
  obtain ⟨columns, hl⟩ := h.columns ht
  unfold checkColumn Schema.Lists
  rw [Option.bind_some, hl]
  simp

/-- What a schema lacks is refused as a path that cannot be resolved. -/
theorem checkTable_failsOnly (schema : Option Schema) (table : String) :
    (checkTable schema table).FailsOnly fun err => err.category? = some .pathResolution := by
  unfold checkTable
  split
  · exact .ok ()
  · split
    · exact .ok ()
    · exact .error rfl

theorem checkColumn_failsOnly (schema : Option Schema) (table column : String) :
    (checkColumn schema table column).FailsOnly fun err =>
      err.category? = some .pathResolution := by
  unfold checkColumn
  split
  · exact .ok ()
  · split
    · exact .ok ()
    · exact .error rfl

end

/-! ## Captures -/

namespace Argument

/-- A table on which columns are named, in contrast to a finished reference to one. -/
def IsCapture : Argument F → Prop
  | .table _ _ _ => True
  | _ => False

/-- An argument that is got under a schema, or that refers to no column and no table.  Of the tables
    that it is got from, `hands` admits those whose rows are handed out. -/
inductive Drawn (source : SchemaSource) (hands : Argument F → Prop) : Argument F → Prop
  | value (v) : Drawn source hands (.value v)
  | actor (ref) : Drawn source hands (.actor ref)
  | actorRef (ref) : Drawn source hands (.actorRef ref)
  | subject {a} : ofSubject source = .ok a → Drawn source hands a
  | related {table a} : ofScoped table source = .ok a → Drawn source hands a
  /-- One more name on what is got already. -/
  | access {a name b} : Drawn source hands a → a.access name = .ok b → Drawn source hands b
  /-- What a method returns: the same table with the columns of the row at hand, or a finished
      reference. -/
  | invoke {a name b} : Drawn source hands a → a.invoke name = .ok b → Drawn source hands b
  /-- The row that a predicate is written for. -/
  | row {kind a table row} : Drawn source hands a → hands a →
      Operator.openTable kind a = .ok (table, row) → Drawn source hands row

/-- Several names are added one after the other. -/
theorem Drawn.chain {source : SchemaSource} {hands : Argument F → Prop} {b : Argument F}
    (names : List String) : ∀ {a : Argument F}, a.Drawn source hands → a.chain names = .ok b →
      b.Drawn source hands := by
  induction names with
  | nil =>
    intro a ha h
    cases h
    exact ha
  | cons name rest ih =>
    intro a ha h
    obtain ⟨next, hnext, h⟩ := Result.bind_eq_ok.1 h
    exact ih (ha.access hnext) h

/-- An argument that keeps to a schema. -/
def Within (S : Schema) : Argument F → Prop
  | .subject schema => schema = some S
  | .table name _ schema => schema = some S ∧ S.Names name
  | .column p | .pathRef p => S.Lists p.table p.column
  | .tableRef name => S.Names name
  | .method _ returned => returned.Within S
  | .rule (.expr _) | .rule (.function _ _) => False
  | .actor _ | .actorRef _ | .rule (.value _) => True

variable {S : Schema} {a b : Argument F}

/-- A name that is captured is checked against the schema. -/
theorem Within.capture (hS : S.IsComplete) (ha : a.Within S) {name : String}
    (h : a.capture name = .ok b) : b.Within S := by
  cases a with
  | subject schema =>
    cases (ha : schema = some S)
    rw [Argument.capture] at h
    split at h
    · cases h
    · obtain ⟨⟨⟩, hc, h⟩ := Result.bind_eq_ok.1 h
      cases h
      exact ⟨rfl, checkTable_eq_ok.1 hc⟩
  | table t isScoped schema =>
    obtain ⟨rfl, ht⟩ := ha
    rw [Argument.capture] at h
    split at h
    · cases h
    · obtain ⟨⟨⟩, hc, h⟩ := Result.bind_eq_ok.1 h
      cases h
      exact (checkColumn_eq_ok hS ht).1 hc
  | column p =>
    rw [Argument.capture] at h
    split at h <;> cases h
  | actor ref =>
    rw [Argument.capture] at h
    split at h
    · cases h
    · unfold actorField at h
      dsimp only at h
      split at h
      · cases h
      · split at h <;> (cases h; trivial)
  | rule r =>
    cases r with
    | value v =>
      cases v with
      | record fields =>
        rw [Argument.capture] at h
        split at h
        · cases h; trivial
        · cases h
      | _ => cases h
    | _ => exact ha.elim
  | actorRef | pathRef | tableRef | method => cases h

/-- What an argument has of its own is no path, or keeps to the schema that the argument keeps to. -/
theorem Within.attributes (ha : a.Within S) : ∀ entry ∈ a.attributes, entry.2.Within S := by
  have hschema : ∀ schema, (ofSchema schema : Argument F).Within S := by
    rintro (_ | _) <;> trivial
  cases a with
  | subject schema => exact List.forall_mem_singleton.2 (hschema schema)
  | table t isScoped schema =>
    simp only [Argument.attributes, List.forall_mem_cons]
    exact ⟨trivial, trivial, hschema schema, ha.2, ha, nofun⟩
  | column p =>
    simp only [Argument.attributes, List.forall_mem_cons]
    exact ⟨trivial, trivial, trivial, ha, nofun⟩
  | actor ref =>
    simp only [Argument.attributes, List.forall_mem_cons]
    exact ⟨trivial, trivial, trivial, trivial, nofun⟩
  | tableRef name => exact List.forall_mem_singleton.2 trivial
  | pathRef | actorRef =>
    simp only [Argument.attributes, List.forall_mem_cons]
    exact ⟨trivial, trivial, nofun⟩
  | rule | method => exact nofun

theorem Within.access (hS : S.IsComplete) (ha : a.Within S) {name : String}
    (h : a.access name = .ok b) : b.Within S := by
  unfold Argument.access at h
  split at h
  case h_1 c hl =>
    cases h
    exact ha.attributes _ (Keyed.mem_of_lookup hl)
  case h_2 => exact ha.capture hS h

theorem Within.invoke (hS : S.IsComplete) (ha : a.Within S) {name : String}
    (h : a.invoke name = .ok b) : b.Within S := by
  obtain ⟨m, hm, h⟩ := Result.bind_eq_ok.1 h
  have hwithin := ha.access hS hm
  split at h
  · cases h
    exact hwithin
  · cases h

/-- The table that is opened is one of the schema. -/
theorem Within.openTable (ha : a.Within S) {kind : RelatedKind} {table : String}
    (h : Operator.openTable kind a = .ok (table, b)) : S.Names table := by
  cases a with
  | table => cases h; exact ha.2
  | tableRef => cases h; exact ha
  | _ => cases h

/-- Its row keeps to the schema if the table does: a finished reference has forgotten it. -/
theorem Within.row (ha : a.Within S) (hc : a.IsCapture) {kind : RelatedKind} {table : String}
    (h : Operator.openTable kind a = .ok (table, b)) : b.Within S := by
  cases a with
  | table => cases h; exact ha
  | _ => exact hc.elim

/-- **What is drawn from a schema keeps to it**, if no row is handed out for a finished reference. -/
theorem Drawn.within {source : SchemaSource} (hsource : source.schema? = .ok (some S))
    (hS : S.IsComplete) (h : a.Drawn source IsCapture) : a.Within S := by
  induction h with
  | value | actor | actorRef => trivial
  | subject h =>
    rw [ofSubject, hsource] at h
    cases h
    rfl
  | related h =>
    obtain ⟨_, hschema, h⟩ := Result.bind_eq_ok.1 h
    cases hsource.symm.trans hschema
    obtain ⟨⟨⟩, hc, h⟩ := Result.bind_eq_ok.1 h
    cases h
    exact ⟨rfl, checkTable_eq_ok.1 hc⟩
  | access _ h ih => exact ih.access hS h
  | invoke _ h ih => exact ih.invoke hS h
  | row _ hc h ih => exact ih.row hc h

/-- The column that an argument refers to is one of the schema. -/
theorem Within.path (ha : a.Within S) {p : PathRef} (h : a.path = .ok p) :
    S.Lists p.table p.column := by
  obtain ⟨target, ht, h⟩ := Result.bind_eq_ok.1 h
  cases a with
  | column q | pathRef q =>
    cases ht
    cases h
    exact ha
  | table | tableRef => cases ht; cases h
  | rule r =>
    cases r with
    | value v =>
      cases v with
      | scalar s => cases s <;> cases ht
      | _ => cases ht
    | _ => cases ht
  | _ => cases ht

theorem Within.operand (ha : a.Within S) {role : String} {o : Operand}
    (h : Operator.operand a role = .ok o) : ∀ p ∈ o.path?, S.Lists p.table p.column := by
  intro p hp
  unfold Operator.operand at h
  split at h
  case h_1 | h_2 =>
    cases h
    cases hp
    exact ha
  case h_3 | h_4 =>
    obtain ⟨ref, -, h⟩ := Result.bind_eq_ok.1 h
    cases h
    cases hp
  case h_5 =>
    cases h
    cases hp
  case h_6 => cases h

/-! ## Names that leave a schema -/

/-- Names that leave a schema where they are added to an argument: one of them is no table or no
    column of the schema, is not reserved, and is no name of what the argument has of its own. -/
inductive Leaves (S : Schema) : Argument F → List String → Prop
  | table {schema name rest} : isReserved name = false →
      (subject schema : Argument F).hasOwn name = false → ¬ S.Names name →
      Leaves S (.subject schema) (name :: rest)
  | column {table isScoped schema name rest} : isReserved name = false →
      (Argument.table table isScoped schema : Argument F).hasOwn name = false →
      ¬ S.Lists table name → Leaves S (.table table isScoped schema) (name :: rest)
  | later {a name b rest} : a.access name = .ok b → Leaves S b rest → Leaves S a (name :: rest)

/-- What an argument does not have of its own is named on it. -/
theorem access_of_not_hasOwn {name : String} (h : a.hasOwn name = false) :
    a.access name = a.capture name := by
  rw [hasOwn, Option.isSome_eq_false_iff, Option.isNone_iff_eq_none] at h
  rw [access, h]

/-- **Names that leave a schema are refused as they are added.** -/
theorem chain_of_leaves (hS : S.IsComplete) {names : List String} (h : Leaves S a names) :
    a.Within S → ∃ err, a.chain names = .error err ∧ err.category? = some .pathResolution := by
  have hfails : ∀ {a : Argument F} {name : String} {rest : List String} {err : Error},
      a.access name = .error err → a.chain (name :: rest) = .error err := by
    intro a name rest err h
    rw [chain, h]
    rfl
  induction h with
  | @table schema name rest hr ho hn =>
    rintro rfl
    cases hc : checkTable (some S) name with
    | ok => exact absurd (checkTable_eq_ok.1 hc) hn
    | error err =>
      refine ⟨err, hfails ?_, checkTable_failsOnly _ _ err hc⟩
      rw [access_of_not_hasOwn ho, Argument.capture, hr, hc]
      rfl
  | @column table isScoped schema name rest hr ho hn =>
    rintro ⟨rfl, ht⟩
    cases hc : checkColumn (some S) table name with
    | ok => exact absurd ((checkColumn_eq_ok hS ht).1 hc) hn
    | error err =>
      refine ⟨err, hfails ?_, checkColumn_failsOnly _ _ _ err hc⟩
      rw [access_of_not_hasOwn ho, Argument.capture, hr, hc]
      rfl
  | later h _ ih =>
    intro ha
    obtain ⟨err, herr, hc⟩ := ih (ha.access hS h)
    refine ⟨err, ?_, hc⟩
    rw [chain, h]
    exact herr

/-- A related table that a schema lacks is refused. -/
theorem ofScoped_of_not_names {source : SchemaSource} (hsource : source.schema? = .ok (some S))
    {table : String} (h : ¬ S.Names table) : ∃ err,
      (ofScoped table source : Result (Argument F)) = .error err ∧
        err.category? = some .pathResolution := by
  cases hc : checkTable (some S) table with
  | ok => exact absurd (checkTable_eq_ok.1 hc) h
  | error err =>
    refine ⟨err, ?_, checkTable_failsOnly _ _ err hc⟩
    rw [ofScoped, hsource]
    show (checkTable (some S) table >>= fun _ => _) = _
    rw [hc]
    rfl

end Argument

/-! ## Rules -/

namespace Expr

/-- A rule without functions that operators build from what is drawn from a schema.  The predicate
    on the rows of a table is built in turn, of the row that it is written for as well: this is drawn
    from the schema by `Argument.Drawn.row`, where it is handed out. -/
inductive Drawn [CharacterNames] (source : SchemaSource) (hands : Argument F → Prop) : Expr F → Prop
  | literal {v e} : Operator.literal v = .ok e → Drawn source hands e
  | compare {op left right e} : left.Drawn source hands → right.Drawn source hands →
      Operator.compare op left right = .ok e → Drawn source hands e
  | between {path low high e} : path.Drawn source hands → low.Drawn source hands →
      high.Drawn source hands → Operator.between path low high = .ok e → Drawn source hands e
  | inArray {path values e} : path.Drawn source hands → values.Drawn source hands →
      Operator.inArray path values = .ok e → Drawn source hands e
  | nullCheck {test path e} : path.Drawn source hands →
      Operator.nullCheck test path = .ok e → Drawn source hands e
  | textMatch {test path text e} : path.Drawn source hands →
      Operator.textMatch test path text = .ok e → Drawn source hands e
  | search {path pattern letters e} : path.Drawn source hands →
      Operator.search path pattern letters = .ok e → Drawn source hands e
  | tenantScoped {path e} : path.Drawn source hands → Operator.tenantScoped path = .ok e →
      Drawn source hands e
  | belongsToTenant {actorValue path e} : actorValue.Drawn source hands →
      path.Drawn source hands → Operator.belongsToTenant actorValue path = .ok e →
      Drawn source hands e
  | related {kind table name row r p minCount e} : table.Drawn source hands →
      Operator.openTable kind table = .ok (name, row) → r.toExpr = .ok p → Drawn source hands p →
      Operator.related kind name r minCount = .ok e → Drawn source hands e
  | negation {r p e} : r.toExpr = .ok p → Drawn source hands p → Operator.negation r = .ok e →
      Drawn source hands e
  | junction {kind rules e} : (∀ r ∈ rules, ∀ p, r.toExpr = .ok p → Drawn source hands p) →
      Operator.junction kind rules = .ok e → Drawn source hands e

/-- A rule that keeps to a schema, and holds no function. -/
structure Within (S : Schema) (e : Expr F) : Prop where
  paths : ∀ p ∈ e.paths, S.Lists p.table p.column
  tables : ∀ name ∈ e.relatedTables, S.Names name
  plain : e.hasFunction = false

variable {S : Schema} {e : Expr F}

theorem Within.leaf (he : e.isLeaf = true) (h : ∀ p ∈ e.nodePaths, S.Lists p.table p.column) :
    e.Within S := by
  refine ⟨?_, ?_, ?_⟩
  · rwa [paths_leaf he]
  · rw [relatedTables_leaf he]
    exact nofun
  · cases e <;> simp_all [isLeaf, hasFunction, walk_eq_preorder, preorder]

theorem Within.related (h : e.Within S) {table : String} (ht : S.Names table) (kind : RelatedKind)
    (minCount : Nat) : (Expr.related kind table e minCount).Within S := by
  refine ⟨?_, ?_, ?_⟩
  · rw [paths_related]
    exact h.paths
  · rw [relatedTables_related]
    exact List.forall_mem_cons.2 ⟨ht, h.tables⟩
  · rw [hasFunction_related]
    exact h.plain

theorem Within.not (h : e.Within S) : (Expr.not e).Within S := by
  refine ⟨?_, ?_, ?_⟩
  · rw [paths_not]
    exact h.paths
  · rw [relatedTables_not]
    exact h.tables
  · rw [hasFunction_not]
    exact h.plain

theorem Within.junction {kind : Junction} {rules : List (Expr F)} (h : ∀ e ∈ rules, e.Within S) :
    (Expr.junction kind rules).Within S := by
  refine ⟨fun p hp => ?_, fun name hn => ?_, hasFunction_junction.2 fun e he => (h e he).plain⟩
  · obtain ⟨e, he, hp⟩ := mem_paths_junction.1 hp
    exact (h e he).paths p hp
  · obtain ⟨e, he, hn⟩ := mem_relatedTables_junction.1 hn
    exact (h e he).tables name hn

/-- **A rule that is drawn from a schema keeps to it.** -/
theorem Drawn.within [CharacterNames] {source : SchemaSource}
    (hsource : source.schema? = .ok (some S)) (hS : S.IsComplete)
    (h : e.Drawn source Argument.IsCapture) : e.Within S := by
  have hpath : ∀ {a : Argument F} {p}, a.Drawn source Argument.IsCapture → a.path = .ok p →
      S.Lists p.table p.column := fun ha h => (ha.within hsource hS).path h
  have hoperand : ∀ {a : Argument F} {role o}, a.Drawn source Argument.IsCapture →
      Operator.operand a role = .ok o → ∀ p ∈ o.path?, S.Lists p.table p.column :=
    fun ha h => (ha.within hsource hS).operand h
  have hsingle : ∀ {p : PathRef}, S.Lists p.table p.column → ∀ q ∈ [p], S.Lists q.table q.column :=
    fun h q hq => by rwa [List.mem_singleton.1 hq]
  induction h with
  | @literal v e h =>
    unfold Operator.literal at h
    split at h
    · cases h
      exact ⟨by simp [paths, walk_eq_preorder, preorder, nodePaths],
        by simp [relatedTables, walk_eq_preorder, preorder],
        by simp [hasFunction, walk_eq_preorder, preorder]⟩
    · cases h
  | compare hl hr h =>
    obtain ⟨p, hp, h⟩ := Result.bind_eq_ok.1 h
    obtain ⟨o, ho, h⟩ := Result.bind_eq_ok.1 h
    cases h
    refine .leaf rfl (List.forall_mem_cons.2 ⟨hpath hl hp, fun q hq => ?_⟩)
    exact hoperand hr ho q (Option.mem_toList.1 hq)
  | between hp hl hh h =>
    obtain ⟨p, hpp, h⟩ := Result.bind_eq_ok.1 h
    obtain ⟨low, hlow, h⟩ := Result.bind_eq_ok.1 h
    obtain ⟨high, hhigh, h⟩ := Result.bind_eq_ok.1 h
    cases h
    refine .leaf rfl (List.forall_mem_cons.2 ⟨hpath hp hpp, fun q hq => ?_⟩)
    rcases List.mem_append.1 hq with hq | hq
    · exact hoperand hl hlow q (Option.mem_toList.1 hq)
    · exact hoperand hh hhigh q (Option.mem_toList.1 hq)
  | inArray hp _ h =>
    rw [Operator.inArray_eq] at h
    obtain ⟨vs, -, h⟩ := Result.bind_eq_ok.1 h
    obtain ⟨constants, -, h⟩ := Result.bind_eq_ok.1 h
    obtain ⟨p, hpp, h⟩ := Result.bind_eq_ok.1 h
    cases h
    exact .leaf rfl (hsingle (hpath hp hpp))
  | nullCheck hp h | tenantScoped hp h =>
    obtain ⟨p, hpp, h⟩ := Result.bind_eq_ok.1 h
    cases h
    exact .leaf rfl (hsingle (hpath hp hpp))
  | textMatch hp h =>
    obtain ⟨p, hpp, h⟩ := Result.bind_eq_ok.1 h
    obtain ⟨s, -, h⟩ := Result.bind_eq_ok.1 h
    cases h
    exact .leaf rfl (hsingle (hpath hp hpp))
  | search hp h =>
    obtain ⟨p, hpp, h⟩ := Result.bind_eq_ok.1 h
    obtain ⟨pattern, -, h⟩ := Result.bind_eq_ok.1 h
    obtain ⟨letters, -, h⟩ := Result.bind_eq_ok.1 h
    obtain ⟨flags, -, h⟩ := Result.bind_eq_ok.1 h
    split at h
    · cases h
      exact .leaf rfl (hsingle (hpath hp hpp))
    · split at h <;> cases h
  | belongsToTenant _ hp h =>
    rw [Operator.belongsToTenant_eq] at h
    obtain ⟨a, -, h⟩ := Result.bind_eq_ok.1 h
    obtain ⟨ref, -, h⟩ := Result.bind_eq_ok.1 h
    obtain ⟨p, hpp, h⟩ := Result.bind_eq_ok.1 h
    cases h
    exact .leaf rfl (hsingle (hpath hp hpp))
  | related ht hopen hr _ h ih =>
    have hname := (ht.within hsource hS).openTable hopen
    obtain ⟨p, hp, h⟩ := Result.bind_eq_ok.1 h
    cases hr.symm.trans hp
    split at h
    · obtain ⟨n, -, h⟩ := Result.bind_eq_ok.1 h
      cases h
      exact ih.related hname _ _
    · cases h
  | negation hr _ h ih =>
    obtain ⟨p, hp, h⟩ := Result.bind_eq_ok.1 h
    cases hr.symm.trans hp
    cases h
    exact ih.not
  | junction _ h ih =>
    obtain ⟨es, hes, h⟩ := Result.bind_eq_ok.1 h
    cases h
    refine .junction fun e he => ?_
    obtain ⟨r, hr, hre⟩ := Operator.mem_of_mapM_toExpr hes he
    exact ih r hr e hre

end Expr

end Clearance
