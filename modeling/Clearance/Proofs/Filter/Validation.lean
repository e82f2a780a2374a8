/-
  Checking declarations tells what compiling would do.

  The check goes through the tree three times, for the scoped paths that no related node opens,
  for the related tables and for all paths, and compiling goes through it once, with the open
  tables at hand; both come down to whether the tree is covered by the declarations.

  * `Declarations.validate_eq_ok`: the check succeeds iff the tree is covered;
  * `Expr.clause_iff_covers`: so does compiling, where a tree is `Expr.Ready`: nothing but the
    declarations can be missing;
  * `Error.IsMisdeclared`: the errors of both are that a path is out of scope, or that a table or
    a column is not declared;
  * `Rule.validate_iff_compiles`: the two together, for a rule that holds no function node.
-/
import Clearance.Proofs.Filter.Declared
import Clearance.Proofs.Rule.Plain

namespace Clearance

open Sql

variable {F : Type} {config : Config} {d : Declarations} {actor : Value} {opened : List String}

/-- An error that a path is out of scope, or that a table or a column is not declared. -/
def Error.IsMisdeclared (err : Error) : Prop :=
  ∃ category ∈ [ErrorCategory.pathResolution, .undeclaredTable, .undeclaredColumn],
    err.category? = some category

namespace Error.IsMisdeclared

theorem strayPath (p : PathRef) (opened : Option (List String)) :
    IsMisdeclared (.strayPath p opened) := ⟨_, by simp, rfl⟩

theorem undeclaredTable (name : String) (declared : List String) :
    IsMisdeclared (.undeclaredTable name declared) := ⟨_, by simp, rfl⟩

theorem undeclaredColumn (table column : String) (declared : List String) :
    IsMisdeclared (.undeclaredColumn table column declared) := ⟨_, by simp, rfl⟩

end Error.IsMisdeclared

/-! ## Look-up -/

namespace Declarations

theorem declared_failsOnly (d : Declarations) (name : String) (isScoped : Bool) :
    (d.declared name isScoped).FailsOnly Error.IsMisdeclared := by
  unfold declared
  split
  · exact .ok _
  · split
    · exact .ok _
    · exact .error (.undeclaredTable _ _)

theorem column_failsOnly (d : Declarations) (p : PathRef) :
    (d.column p).FailsOnly Error.IsMisdeclared := by
  refine .bind (d.declared_failsOnly _ _) fun columns _ => ?_
  split
  · exact .ok _
  · exact .error (.undeclaredColumn _ _ _)

end Declarations

theorem checkScope_failsOnly (p : PathRef) (opened : List String) :
    (checkScope p opened).FailsOnly Error.IsMisdeclared := by
  unfold checkScope
  split
  · exact .error (.strayPath _ _)
  · exact .ok ()

theorem columnOf_failsOnly (d : Declarations) (opened : List String) (p : PathRef) :
    (columnOf d opened p).FailsOnly Error.IsMisdeclared :=
  .bind (checkScope_failsOnly p opened) fun _ _ =>
    .bind (d.column_failsOnly p) fun h _ => .ok h.column

/-! ## Covered trees -/

namespace Declarations.Covers

/-- The paths of a covered leaf stand for columns. -/
theorem columnOf {e : Expr F} (h : d.Covers opened e) (he : e.isLeaf = true) :
    ∀ p ∈ e.nodePaths, ∃ column, columnOf d opened p = .ok column := by
  intro p hp
  have ho : ⟨opened, p⟩ ∈ e.references opened := by
    rw [Expr.references_leaf he]
    exact List.mem_map_of_mem hp
  obtain ⟨handle, hd⟩ := h.path _ ho
  exact ⟨handle.column, columnOf_eq_ok.2 ⟨h.scope _ ho, handle, hd, rfl⟩⟩

theorem of_related {kind : RelatedKind} {table : String} {predicate : Expr F} {minCount : Nat}
    (h : d.Covers opened (.related kind table predicate minCount)) :
    (∃ columns, d.table table = .ok columns) ∧ d.Covers (opened ++ [table]) predicate := by
  obtain ⟨hpath, hscope, htable⟩ := h
  rw [Expr.references_related] at hpath hscope
  rw [Expr.relatedTables_related] at htable
  obtain ⟨columns, hf⟩ := htable table (by simp)
  exact ⟨⟨columns, declared_eq_ok.2 hf⟩, hpath, hscope,
    fun name hn => htable name (List.mem_cons_of_mem _ hn)⟩

theorem of_not {e : Expr F} (h : d.Covers opened (.not e)) : d.Covers opened e := by
  obtain ⟨hpath, hscope, htable⟩ := h
  rw [Expr.references_not] at hpath hscope
  rw [Expr.relatedTables_not] at htable
  exact ⟨hpath, hscope, htable⟩

theorem of_junction {kind : Junction} {rules : List (Expr F)}
    (h : d.Covers opened (.junction kind rules)) : ∀ e ∈ rules, d.Covers opened e := by
  intro e he
  refine ⟨fun o ho => ?_, fun o ho => ?_, fun name hn => ?_⟩
  · exact h.path o (Expr.mem_references_junction.2 ⟨e, he, ho⟩)
  · exact h.scope o (Expr.mem_references_junction.2 ⟨e, he, ho⟩)
  · exact h.table name (Expr.mem_relatedTables_junction.2 ⟨e, he, hn⟩)

/-- A tree that holds no function node is covered iff the tree without functions is. -/
theorem plain_iff {e : Expr F} {t : Expr Empty} (h : e.plain? = some t) :
    d.Covers opened e ↔ d.Covers opened t := by
  constructor
  · rintro ⟨hpath, hscope, htable⟩
    rw [Expr.references_plain h] at hpath hscope
    rw [Expr.relatedTables_plain h] at htable
    exact ⟨hpath, hscope, htable⟩
  · rintro ⟨hpath, hscope, htable⟩
    rw [← Expr.references_plain h] at hpath hscope
    rw [← Expr.relatedTables_plain h] at htable
    exact ⟨hpath, hscope, htable⟩

end Declarations.Covers

/-! ## Checking -/

namespace Declarations

/-- No path is reported as out of scope iff all are in scope. -/
theorem unscopedPaths_eq_nil {e : Expr F} : e.unscopedPaths [] = [] ↔
    ∀ o ∈ e.references [], o.item.isScoped = true → o.item.table ∈ o.around := by
  rw [e.unscopedPaths_eq [] [] fun _ => Iff.rfl, List.map_eq_nil_iff, List.filter_eq_nil_iff]
  refine forall₂_congr fun o _ => ?_
  rw [Expr.isStray, Bool.not_eq_true, Bool.and_eq_false_imp, Bool.not_eq_false',
    List.contains_iff_mem]

theorem discard_declared_eq_ok {name : String} {isScoped : Bool} :
    (discard (d.declared name isScoped) : Result Unit) = .ok () ↔
      ∃ columns, d.Finds name isScoped columns := by
  rw [Result.discard_eq_ok]
  exact exists_congr fun _ => declared_eq_ok

theorem discard_column_eq_ok {p : PathRef} :
    (discard (d.column p) : Result Unit) = .ok () ↔ ∃ h, d.Declares p h := by
  rw [Result.discard_eq_ok]
  exact exists_congr fun _ => column_eq_ok

/-- **The check succeeds iff the tree is covered.** -/
theorem validate_eq_ok {e : Expr F} : d.validate e = .ok () ↔ d.Covers [] e := by
  have hpaths : ∀ p, p ∈ e.paths ↔ ∃ o ∈ e.references [], o.item = p := by
    intro p
    rw [← Expr.map_references_eq_paths [], List.mem_map]
  unfold validate
  constructor
  · intro h
    split at h
    · cases h
    · rename_i hs
      obtain ⟨_, ht, hp⟩ := Result.bind_eq_ok.1 h
      refine ⟨fun o ho => ?_, unscopedPaths_eq_nil.1 (List.head?_eq_none_iff.1 hs), ?_⟩
      · exact discard_column_eq_ok.1 (Result.forM_eq_ok.1 hp o.item ((hpaths _).2 ⟨o, ho, rfl⟩))
      · exact fun name hn => discard_declared_eq_ok.1 (Result.forM_eq_ok.1 ht name hn)
  · rintro ⟨hpath, hscope, htable⟩
    rw [List.head?_eq_none_iff.2 (unscopedPaths_eq_nil.2 hscope)]
    refine Result.bind_eq_ok.2 ⟨(), Result.forM_eq_ok.2 fun name hn => ?_,
      Result.forM_eq_ok.2 fun p hp => ?_⟩
    · exact discard_declared_eq_ok.2 (htable name hn)
    · obtain ⟨o, ho, rfl⟩ := (hpaths p).1 hp
      exact discard_column_eq_ok.2 (hpath o ho)

/-- The check reports nothing but what is out of scope or not declared. -/
theorem validate_failsOnly (d : Declarations) (e : Expr F) :
    (d.validate e).FailsOnly Error.IsMisdeclared := by
  unfold validate
  split
  · exact .error (.strayPath _ _)
  · exact .bind (.forM fun name _ => .discard (d.declared_failsOnly name true)) fun _ _ =>
      .forM fun p _ => .discard (d.column_failsOnly p)

end Declarations

/-! ## Compiling -/

/-- What compiling a tree needs besides the declarations of its paths and tables: patterns need
    not be written as `LIKE`, the actor has the fields that tenant columns are compared with, and
    a related table that is declared has a column of some SQL table. -/
structure Expr.Ready (config : Config) (d : Declarations) (actor : Value) (e : Expr F) : Prop where
  pattern : config.regexStrategy ≠ .like
  tenant : ∀ path, .tenantScoped path ∈ e.walk →
    ∃ v, lookupTenant actor path.column config.tenantNamespace = .ok v
  owner : ∀ name ∈ e.relatedTables, ∀ columns, d.table name = .ok columns →
    ∃ entry ∈ columns, ∃ table, entry.2.column.table = some table

namespace Expr.Ready

theorem related {kind : RelatedKind} {table : String} {predicate : Expr F} {minCount : Nat}
    (h : (Expr.related kind table predicate minCount).Ready config d actor) :
    predicate.Ready config d actor := by
  obtain ⟨hpattern, htenant, howner⟩ := h
  rw [Expr.walk_eq_preorder, Expr.preorder] at htenant
  rw [Expr.relatedTables_related] at howner
  refine ⟨hpattern, fun path hn => ?_, fun name hn => howner name (List.mem_cons_of_mem _ hn)⟩
  rw [Expr.walk_eq_preorder] at hn
  exact htenant path (List.mem_cons_of_mem _ hn)

theorem not {e : Expr F} (h : (Expr.not e).Ready config d actor) : e.Ready config d actor := by
  obtain ⟨hpattern, htenant, howner⟩ := h
  rw [Expr.walk_eq_preorder, Expr.preorder] at htenant
  rw [Expr.relatedTables_not] at howner
  refine ⟨hpattern, fun path hn => ?_, howner⟩
  rw [Expr.walk_eq_preorder] at hn
  exact htenant path (List.mem_cons_of_mem _ hn)

theorem junction {kind : Junction} {rules : List (Expr F)}
    (h : (Expr.junction kind rules).Ready config d actor) :
    ∀ e ∈ rules, e.Ready config d actor := by
  obtain ⟨hpattern, htenant, howner⟩ := h
  rw [Expr.walk_eq_preorder, Expr.preorder] at htenant
  intro e he
  refine ⟨hpattern, fun path hn => ?_,
    fun name hn => howner name (Expr.mem_relatedTables_junction.2 ⟨e, he, hn⟩)⟩
  rw [Expr.walk_eq_preorder] at hn
  exact htenant path (List.mem_cons_of_mem _ (Expr.mem_preorderAll.2 ⟨e, he, hn⟩))

/-- The tree without functions needs no more than the tree that holds no function node. -/
theorem plain {e : Expr F} {t : Expr Empty} (ht : e.plain? = some t)
    (h : e.Ready config d actor) : t.Ready config d actor := by
  obtain ⟨hpattern, htenant, howner⟩ := h
  rw [Expr.relatedTables_plain ht] at howner
  refine ⟨hpattern, fun path hm => ?_, howner⟩
  obtain ⟨n, hn, hp⟩ := Expr.exists_mem_walk_of_plain ht hm
  have hn' : n = .tenantScoped path := by
    cases n with
    | related | not | junction => obtain ⟨_, -, h⟩ := Option.map_eq_some_iff.1 hp; cases h
    | _ => cases hp <;> rfl
  exact htenant path (hn' ▸ hn)

end Expr.Ready

/-- A pattern that need not be written as `LIKE` has a test. -/
theorem patternClause_failsOnly {strategy : RegexStrategy} (h : strategy ≠ .like)
    {P : Error → Prop} (c : Column) (pattern : String) (flags : List PatternFlag) :
    (patternClause strategy c pattern flags).FailsOnly P := by
  unfold patternClause
  split
  · exact .ok _
  · split
    · rename_i hs
      exact absurd (beq_iff_eq.1 hs) h
    · exact .ok _

/-- A leaf fails to compile as its paths do, or as its pattern or the tenant of the actor does. -/
theorem leafClause_failsOnly_of {P : Error → Prop} {e : Expr F}
    (hpath : ∀ p ∈ e.nodePaths, (columnOf d opened p).FailsOnly P)
    (hpattern : ∀ path pattern flags, e = .matches path pattern flags → ∀ c,
      (patternClause config.regexStrategy c pattern flags).FailsOnly P)
    (htenant : ∀ path, e = .tenantScoped path →
      (lookupTenant actor path.column config.tenantNamespace).FailsOnly P) :
    (leafClause config d actor opened e).FailsOnly P := by
  have hterm : ∀ o : Operand, (∀ p ∈ o.path?, p ∈ e.nodePaths) →
      (termOf d opened o).FailsOnly P := by
    intro o ho
    cases o with
    | path p => exact .bind (hpath p (ho p rfl)) fun c _ => .ok (Term.column c)
    | actor a => exact .ok _
    | scalar s => exact .ok _
  cases e with
  | comparison op left right =>
    refine .bind (hpath left (by simp [Expr.nodePaths])) fun c _ =>
      .bind (hterm right fun p hp => ?_) fun t _ => .ok _
    rw [Option.mem_def] at hp
    simp [Expr.nodePaths, hp]
  | between path min max =>
    refine .bind (hpath path (by simp [Expr.nodePaths])) fun c _ =>
      .bind (hterm min fun p hp => ?_) fun low _ =>
        .bind (hterm max fun p hp => ?_) fun high _ => .ok _
    · rw [Option.mem_def] at hp
      simp [Expr.nodePaths, hp]
    · rw [Option.mem_def] at hp
      simp [Expr.nodePaths, hp]
  | inArray path values =>
    exact .bind (hpath path (by simp [Expr.nodePaths])) fun c _ => .ok _
  | nullCheck test path =>
    exact .bind (hpath path (by simp [Expr.nodePaths])) fun c _ => .ok _
  | textMatch test path text =>
    exact .bind (hpath path (by simp [Expr.nodePaths])) fun c _ => .ok _
  | «matches» path pattern flags =>
    exact .bind (hpath path (by simp [Expr.nodePaths])) fun c _ =>
      .bind (hpattern path pattern flags rfl c) fun t _ => .ok _
  | tenantScoped path =>
    exact .bind (hpath path (by simp [Expr.nodePaths])) fun c _ =>
      .bind (htenant path rfl) fun v _ => .ok _
  | belongsToTenant a path =>
    exact .bind (hpath path (by simp [Expr.nodePaths])) fun c _ => .ok _
  | literal | related | not | junction | function => exact .ok _

/-- A leaf fails to compile only for a path of its own that stands for no column. -/
theorem leafClause_failsOnly {e : Expr F} (hr : e.Ready config d actor) :
    (leafClause config d actor opened e).FailsOnly fun err =>
      ∃ p ∈ e.nodePaths, columnOf d opened p = .error err := by
  refine leafClause_failsOnly_of (fun p hp err h => ⟨p, hp, h⟩)
    (fun path pattern flags _ c => patternClause_failsOnly hr.pattern c pattern flags) ?_
  rintro path rfl
  obtain ⟨v, hv⟩ := hr.tenant path (by simp [Expr.walk_eq_preorder, Expr.preorder])
  rw [hv]
  exact .ok v

/-- Declared columns of which one belongs to a SQL table have an owner. -/
theorem Columns.exists_owner {columns : Columns}
    (h : ∃ entry ∈ columns, ∃ table, entry.2.column.table = some table) :
    ∃ owner, columns.owner = .ok owner := by
  obtain ⟨entry, he, table, ht⟩ := h
  unfold Columns.owner
  cases hs : columns.findSome? fun c => c.2.column.table with
  | some owner => exact ⟨owner, rfl⟩
  | none =>
    rw [List.findSome?_eq_none_iff.1 hs entry he] at ht
    cases ht

namespace Expr

/-- Trees fail to compile only for the reasons for which one of them does. -/
theorem clauses_failsOnly {P : Error → Prop} {es : List (Expr Empty)}
    (h : ∀ e ∈ es, (e.clause config d actor opened).FailsOnly P) :
    (clauses config d actor opened es).FailsOnly P := by
  induction es with
  | nil => exact .ok []
  | cons e rest ih =>
    exact .bind (h e (by simp)) fun c _ => .bind (ih fun e he => h e (by simp [he])) fun _ _ => .ok _

/-- A tree that is ready fails to compile only for what is out of scope or not declared, and then
    it is not covered. -/
theorem clause_failsOnly (e : Expr Empty) : ∀ opened, e.Ready config d actor →
    (e.clause config d actor opened).FailsOnly fun err =>
      err.IsMisdeclared ∧ ¬ d.Covers opened e := by
  induction e using treeInduction with
  | literal value => exact fun opened _ => .ok _
  | leaf e he =>
    intro opened hr
    rw [clause_leaf he]
    refine (leafClause_failsOnly hr).mono fun err ⟨p, hp, h⟩ => ?_
    refine ⟨columnOf_failsOnly d opened p err h, fun hc => ?_⟩
    obtain ⟨column, hok⟩ := hc.columnOf he p hp
    rw [h] at hok
    cases hok
  | function fn => exact fn.elim
  | related kind table predicate minCount ih =>
    intro opened hr
    refine .bind (fun err h => ⟨d.declared_failsOnly table true err h, fun hc => ?_⟩)
      fun columns ht => ?_
    · obtain ⟨⟨columns, hok⟩, -⟩ := hc.of_related
      rw [h] at hok
      cases hok
    · obtain ⟨owner, ho⟩ := Columns.exists_owner
        (hr.owner table (by simp [relatedTables_related]) columns ht)
      rw [ho]
      refine .bind (.ok owner) fun _ _ => .bind ?_ fun p _ => .ok _
      exact (ih _ hr.related).mono fun err ⟨hm, hn⟩ => ⟨hm, fun hc => hn hc.of_related.2⟩
  | not e ih =>
    intro opened hr
    refine .bind ((ih opened hr.not).mono ?_) fun p _ => .ok _
    exact fun err ⟨hm, hn⟩ => ⟨hm, fun hc => hn hc.of_not⟩
  | junction kind rules ih =>
    intro opened hr
    refine .bind (clauses_failsOnly fun e he => ?_) fun cs _ => .ok _
    exact (ih e he opened (hr.junction e he)).mono
      fun err ⟨hm, hn⟩ => ⟨hm, fun hc => hn (hc.of_junction e he)⟩

/-- **A tree that is ready compiles iff it is covered.** -/
theorem clause_iff_covers {e : Expr Empty} (hr : e.Ready config d actor) :
    (∃ c, e.clause config d actor opened = .ok c) ↔ d.Covers opened e := by
  constructor
  · rintro ⟨c, hc⟩
    exact e.covers_of_clause hc
  · intro hc
    cases h : e.clause config d actor opened with
    | ok c => exact ⟨c, rfl⟩
    | error err => exact absurd hc (e.clause_failsOnly opened hr err h).2

end Expr

/-! ## Rules -/

/-- **Checking the declarations predicts compiling.**  A rule that holds no function node, is not
    limited in its nodes and is ready passes the check iff it compiles, and both fail for nothing
    but what is out of scope or not declared. -/
theorem Rule.validate_iff_compiles {call : Meaning F} {r : Rule F} {e : Expr F}
    (he : r.toExpr = .ok e) (hf : e.hasFunction = false)
    (hl : config.maxExpressionNodes = none) (hr : e.Ready config d actor) :
    (d.validate e = .ok () ↔ ∃ c, (r.compile config call d actor).result = .ok c) ∧
      (∀ err, d.validate e = .error err → err.IsMisdeclared) ∧
      ∀ err, (r.compile config call d actor).result = .error err → err.IsMisdeclared := by
  obtain ⟨t, ht⟩ := e.exists_plain hf
  have hx : r.expansion config call actor = some t :=
    Rule.expansion_eq_some.2 ⟨e, he, expandWithin_of_plain ht _ _ _⟩
  have hc : (r.compile config call d actor).result = t.clause config d actor [] :=
    (Rule.compile_follows hx).result_eq hl
  have hrt := hr.plain ht
  rw [hc, Declarations.validate_eq_ok, Declarations.Covers.plain_iff ht, Expr.clause_iff_covers hrt]
  exact ⟨Iff.rfl, d.validate_failsOnly e, fun err h => (t.clause_failsOnly [] hrt err h).1⟩

/-- Items of the actor that have a note compile, since they pass the check; with a path on the
    likes in the place of one on the notes they do neither, though no note is asked for. -/
theorem Rule.validate_iff_compiles_of_notes :
    let actor : Value := .dict [("owner_id", .int 7)]
    let rule (minCount : Nat) (p : PathRef) : Expr Empty := .junction .and
      [.tenantScoped ⟨false, "item", "owner_id"⟩,
        .related .count "notes" (.comparison .eq p (.path ⟨false, "item", "id"⟩)) minCount]
    (itemTables.validate (rule 1 ⟨true, "notes", "item_id"⟩) = .ok () ∧
      ∃ c, ((Rule.expr (rule 1 ⟨true, "notes", "item_id"⟩)).compile {} noFunctions itemTables
        actor).result = .ok c) ∧
    itemTables.validate (rule 0 ⟨true, "likes", "id"⟩) =
      .error (.strayPath ⟨true, "likes", "id"⟩ none) ∧
      ¬ ∃ c, ((Rule.expr (rule 0 ⟨true, "likes", "id"⟩)).compile {} noFunctions itemTables
        actor).result = .ok c := by
  intro actor rule
  have hready : ∀ minCount p, (rule minCount p).Ready {} itemTables actor := by
    refine fun minCount p => ⟨by decide, fun path hn => ?_, fun name hn columns hc => ?_⟩
    · simp [rule, Expr.walk_eq_preorder, Expr.preorder, Expr.preorderAll] at hn
      subst hn
      exact ⟨.int 7, rfl⟩
    · simp [rule, Expr.relatedTables, Expr.walk_eq_preorder, Expr.preorder,
        Expr.preorderAll] at hn
      subst hn
      cases hc
      exact ⟨_, List.mem_cons_self, "notes", rfl⟩
  have hplain : ∀ minCount p, (rule minCount p).hasFunction = false := by
    intro minCount p
    simp [rule, Expr.hasFunction, Expr.walk_eq_preorder, Expr.preorder, Expr.preorderAll]
  have hiff : ∀ minCount p, itemTables.validate (rule minCount p) = .ok () ↔
      ∃ c, ((Rule.expr (rule minCount p)).compile {} noFunctions itemTables actor).result = .ok c :=
    fun minCount p => (Rule.validate_iff_compiles rfl (hplain minCount p) rfl
      (hready minCount p)).1
  have hok : itemTables.validate (rule 1 ⟨true, "notes", "item_id"⟩) = .ok () := by
    have hs : (rule 1 ⟨true, "notes", "item_id"⟩).unscopedPaths [] = [] := rfl
    unfold Declarations.validate Expr.relatedTables Expr.paths
    rw [hs, Expr.walk_eq_preorder]
    rfl
  refine ⟨⟨hok, (hiff _ _).1 hok⟩, ?_⟩
  have herr : itemTables.validate (rule 0 ⟨true, "likes", "id"⟩) =
      .error (.strayPath ⟨true, "likes", "id"⟩ none) := rfl
  refine ⟨herr, fun hc => ?_⟩
  rw [(hiff _ _).2 hc] at herr
  cases herr

end Clearance
