/-
  Rules that are drawn from a schema, on declarations that span it.

  Declarations span a schema if they declare its tables and columns wherever a rule would look for
  them.  A rule that keeps to the schema then finds all that it names, in the order in which related
  tables are looked up as well, and neither the check nor compiling can miss a table or a column.

  * `Error.IsUndeclared`: a table or a column is not declared;
  * `Declarations.Provides`: all that a rule names is declared; `Declarations.validate_provided` and
    `Expr.clause_provided` say that nothing is found to be undeclared then;
  * `Declarations.Spans`: declarations span a schema, `Declarations.Spans.provides`: so they provide
    for what keeps to it;
  * `Rule.declared_of_drawn`: rules that are drawn from a schema are declared, and nothing but what
    the schema has can be drawn from it; `Rule.undeclared_of_finished`: a finished reference to a
    table has forgotten the schema, so the rows that are handed out for it are not checked.
-/
import Clearance.Proofs.Draft.Drawn
import Clearance.Proofs.Filter.Validation

namespace Clearance

open Sql

variable {F : Type} {config : Config} {d : Declarations} {actor : Value} {opened : List String}

/-- A table or a column is not declared. -/
def Error.IsUndeclared (err : Error) : Prop :=
  err.category? = some .undeclaredTable ∨ err.category? = some .undeclaredColumn

/-- An error of another category. -/
theorem Error.not_isUndeclared {err : Error} {category : ErrorCategory}
    (h : err.category? = some category) (ht : category ≠ .undeclaredTable)
    (hc : category ≠ .undeclaredColumn) : ¬ err.IsUndeclared := by
  rintro (h' | h')
  · exact ht (Option.some.inj (h.symm.trans h'))
  · exact hc (Option.some.inj (h.symm.trans h'))

/-! ## What is provided for -/

/-- All that a rule names is declared, and the related tables are tables of the database. -/
structure Declarations.Provides (d : Declarations) (e : Expr F) : Prop where
  path : ∀ p ∈ e.paths, ∃ handle, d.column p = .ok handle
  table : ∀ name ∈ e.relatedTables, ∃ columns owner, d.table name = .ok columns ∧
    columns.owner = .ok owner

namespace Declarations.Provides

theorem related {kind : RelatedKind} {table : String} {predicate : Expr F} {minCount : Nat}
    (h : d.Provides (.related kind table predicate minCount)) : d.Provides predicate := by
  obtain ⟨hpath, htable⟩ := h
  rw [Expr.paths_related] at hpath
  rw [Expr.relatedTables_related] at htable
  exact ⟨hpath, fun name hn => htable name (List.mem_cons_of_mem _ hn)⟩

theorem not {e : Expr F} (h : d.Provides (.not e)) : d.Provides e := by
  obtain ⟨hpath, htable⟩ := h
  rw [Expr.paths_not] at hpath
  rw [Expr.relatedTables_not] at htable
  exact ⟨hpath, htable⟩

theorem junction {kind : Junction} {rules : List (Expr F)} (h : d.Provides (.junction kind rules)) :
    ∀ e ∈ rules, d.Provides e := fun e he =>
  ⟨fun p hp => h.path p (Expr.mem_paths_junction.2 ⟨e, he, hp⟩),
    fun name hn => h.table name (Expr.mem_relatedTables_junction.2 ⟨e, he, hn⟩)⟩

/-- The tree without functions names no more than the tree that holds no function node. -/
theorem plain {e : Expr F} {t : Expr Empty} (ht : e.plain? = some t) (h : d.Provides e) :
    d.Provides t := by
  obtain ⟨hpath, htable⟩ := h
  rw [← e.map_references_eq_paths [], Expr.references_plain ht, t.map_references_eq_paths] at hpath
  rw [Expr.relatedTables_plain ht] at htable
  exact ⟨hpath, htable⟩

end Declarations.Provides

/-- The check of a rule that is provided for finds nothing undeclared. -/
theorem Declarations.validate_provided {e : Expr F} (h : d.Provides e) :
    (d.validate e).FailsOnly fun err => ¬ err.IsUndeclared := by
  unfold validate
  split
  · exact .error (Error.not_isUndeclared rfl nofun nofun)
  · refine .bind (.forM fun name hn => .discard ?_) fun _ _ => .forM fun p hp => .discard ?_
    · obtain ⟨columns, -, hok, -⟩ := h.table name hn
      rw [hok]
      exact .ok _
    · obtain ⟨handle, hok⟩ := h.path p hp
      rw [hok]
      exact .ok _

theorem columnOf_provided {p : PathRef} (h : ∃ handle, d.column p = .ok handle) :
    (columnOf d opened p).FailsOnly fun err => ¬ err.IsUndeclared := by
  obtain ⟨handle, hok⟩ := h
  unfold columnOf checkScope
  split
  · exact .error (Error.not_isUndeclared rfl nofun nofun)
  · rw [hok]
    exact .ok _

/-- Compiling a tree that is provided for finds nothing undeclared. -/
theorem Expr.clause_provided (e : Expr Empty) : ∀ opened, d.Provides e →
    (e.clause config d actor opened).FailsOnly fun err => ¬ err.IsUndeclared := by
  induction e using treeInduction with
  | literal value => exact fun opened _ => .ok _
  | leaf e he =>
    intro opened h
    rw [clause_leaf he]
    refine leafClause_failsOnly_of (fun p hp => ?_) (fun path pattern flags _ c => ?_)
      fun path _ => ?_
    · exact columnOf_provided (h.path p (by rwa [paths_leaf he]))
    · unfold patternClause
      split
      · exact .ok _
      · split
        · exact .error (Error.not_isUndeclared rfl nofun nofun)
        · exact .ok _
    · exact (lookupTenant_failsOnly _ _ _).mono fun err hc =>
        Error.not_isUndeclared hc nofun nofun
  | function fn => exact fn.elim
  | related kind table predicate minCount ih =>
    intro opened h
    obtain ⟨columns, owner, hcolumns, howner⟩ := h.table table (by simp [relatedTables_related])
    rw [clause, hcolumns]
    refine .bind (.ok columns) ?_
    rintro _ ⟨⟩
    rw [howner]
    exact .bind (.ok owner) fun _ _ => .bind (ih _ h.related) fun p _ => .ok _
  | not e ih => exact fun opened h => .bind (ih opened h.not) fun p _ => .ok _
  | junction kind rules ih =>
    exact fun opened h => .bind (clauses_failsOnly fun e he => ih e he opened (h.junction e he))
      fun cs _ => .ok _

/-! ## Schemas -/

/-- Declarations span a schema: its tables are declared with all their columns, wherever they are
    looked up, and are tables of the database. -/
structure Declarations.Spans (d : Declarations) (S : Schema) : Prop where
  tables : ∀ name columns, S.lookup name = some (some columns) →
    ∃ declared, d.tables.lookup name = some declared ∧
      ∀ column ∈ columns, (declared.lookup column).isSome = true
  /-- Related tables need not have the tables of the schema, but come first if they do. -/
  related : ∀ related, d.related = some related → ∀ name columns declared,
    S.lookup name = some (some columns) → related.lookup name = some declared →
      ∀ column ∈ columns, (declared.lookup column).isSome = true
  bound : ∀ name, S.Names name → ∀ declared, d.table name = .ok declared →
    ∃ entry ∈ declared, ∃ table, entry.2.column.table = some table

namespace Declarations.Spans

variable {S : Schema}

/-- A table of the schema is declared with all its columns where it is looked up. -/
theorem declared (h : d.Spans S) {name : String} {columns : List String}
    (hS : S.lookup name = some (some columns)) (isScoped : Bool) :
    ∃ declared, d.declared name isScoped = .ok declared ∧
      ∀ column ∈ columns, (declared.lookup column).isSome = true := by
  obtain ⟨declared, hl, hc⟩ := h.tables name columns hS
  have hother : ∀ isScoped, (if isScoped then d.related.bind (·.lookup name) else none) = none →
      d.declared name isScoped = .ok declared := by
    intro isScoped hnone
    rw [Declarations.declared, hnone, hl]
  cases isScoped with
  | false => exact ⟨declared, hother false rfl, hc⟩
  | true =>
    cases hr : d.related.bind (·.lookup name) with
    | none => exact ⟨declared, hother true hr, hc⟩
    | some first =>
      obtain ⟨related, hrelated, hfirst⟩ := Option.bind_eq_some_iff.1 hr
      refine ⟨first, ?_, h.related related hrelated name columns first hS hfirst⟩
      rw [Declarations.declared, if_pos rfl, hr]

/-- **Declarations that span a schema provide for what keeps to it.** -/
theorem provides (h : d.Spans S) (hS : S.IsComplete) {e : Expr F} (he : e.Within S) :
    d.Provides e := by
  refine ⟨fun p hp => ?_, fun name hn => ?_⟩
  · obtain ⟨columns, hl, hcolumn⟩ := he.paths p hp
    obtain ⟨declared, hd, hall⟩ := h.declared hl p.isScoped
    obtain ⟨handle, hhandle⟩ := Option.isSome_iff_exists.1 (hall _ hcolumn)
    exact ⟨handle, Declarations.column_eq_ok.2
      ⟨declared, Declarations.declared_eq_ok.1 hd, hhandle⟩⟩
  · obtain ⟨columns, hl⟩ := hS.columns (he.tables name hn)
    obtain ⟨declared, hd, -⟩ := h.declared hl true
    obtain ⟨owner, howner⟩ := Columns.exists_owner (h.bound name (he.tables name hn) declared hd)
    exact ⟨declared, owner, hd, howner⟩

end Declarations.Spans

/-- Compiling a rule that holds no function and is provided for finds nothing undeclared. -/
theorem Rule.compile_provided {call : Meaning F} {r : Rule F} {e : Expr F} (hr : r.toExpr = .ok e)
    (hf : e.hasFunction = false) (h : d.Provides e) :
    (r.compile config call d actor).result.FailsOnly fun err => ¬ err.IsUndeclared := by
  intro err herr
  obtain ⟨t, ht⟩ := e.exists_plain hf
  have hx : r.expansion config call actor = some t :=
    Rule.expansion_eq_some.2 ⟨e, hr, expandWithin_of_plain ht _ _ _⟩
  rcases Rule.compile_follows (d := d) hx {} with hc | ⟨limit, -, hc⟩
  · exact t.clause_provided [] (h.plain ht) err (hc.symm.trans herr)
  · cases hc.symm.trans herr
    exact Error.not_isUndeclared rfl nofun nofun

/-- **A rule that is drawn from a schema is declared**, if no row is handed out for a finished
    reference.  Where declarations span the schema, the check of such a rule and compiling it may
    fail, but not for a table or a column that is not declared.  And nothing else can be drawn from
    the schema: names that leave it are refused as they are added, on the subject, on a table and on
    a row, unless these have something of their own under such a name; and so is a related table that
    it lacks. -/
theorem Rule.declared_of_drawn [CharacterNames] {tables : List (String × Value)} {S : Schema}
    (hS : (SchemaSource.data (.dict tables)).schema? = .ok (some S)) :
    (∀ (r : Rule F) (e : Expr F), r.toExpr = .ok e →
      e.Drawn (.data (.dict tables)) Argument.IsCapture →
      ∀ d : Declarations, d.Spans S →
        (∀ err, d.validate e = .error err → ¬ err.IsUndeclared) ∧
        ∀ config call actor err, (r.compile config call d actor).result = .error err →
          ¬ err.IsUndeclared) ∧
    (∀ (a : Argument F) (names : List String),
      a.Drawn (.data (.dict tables)) Argument.IsCapture → Argument.Leaves S a names →
      ∃ err, a.chain names = .error err ∧ err.category? = some .pathResolution) ∧
    ∀ name, ¬ S.Names name → ∃ err,
      (Argument.ofScoped name (.data (.dict tables)) : Result (Argument F)) = .error err ∧
        err.category? = some .pathResolution := by
  have hcomplete : S.IsComplete := Schema.isComplete_of_data hS
  refine ⟨fun r e hr he d hd => ?_, fun a names ha h => ?_, fun name h => ?_⟩
  · have hwithin : e.Within S := he.within hS hcomplete
    have hprovides : d.Provides e := hd.provides hcomplete hwithin
    exact ⟨Declarations.validate_provided hprovides, fun config call actor =>
      Rule.compile_provided hr hwithin.plain hprovides⟩
  · exact Argument.chain_of_leaves hcomplete h (ha.within hS hcomplete)
  · exact Argument.ofScoped_of_not_names hS h

/-! ## Notes that somebody likes -/

/-- Notes, and the likes that they get. -/
def Schema.likes : Schema := [("note", some ["id"]), ("likes", some ["note_id", "by"])]

/-- The data that tell of them. -/
def SchemaSource.likes : List (String × Value) :=
  [("note", .list [.str "id"]), ("likes", .tuple [.str "note_id", .str "by"])]

/-- A table for each. -/
def Declarations.likes : Declarations :=
  ⟨[("note", tableColumns "notes" [("id", .int)] false),
    ("likes", tableColumns "likes" [("note_id", .int), ("by", .int)] false)], none⟩

theorem SchemaSource.likes_schema :
    (SchemaSource.data (.dict SchemaSource.likes)).schema? = .ok (some Schema.likes) := rfl

theorem Schema.likes_lookup {name : String} {columns? : Option (List String)}
    (h : Schema.likes.lookup name = some columns?) :
    name = "note" ∧ columns? = some ["id"] ∨
      name = "likes" ∧ columns? = some ["note_id", "by"] := by
  simpa [Schema.likes] using Keyed.mem_of_lookup h

theorem Schema.not_likes_lists {table column : String}
    (hn : ¬ (table = "note" ∧ column = "id"))
    (hl : ¬ (table = "likes" ∧ (column = "note_id" ∨ column = "by"))) :
    ¬ Schema.likes.Lists table column := by
  rintro ⟨columns, h, hm⟩
  rcases Schema.likes_lookup h with ⟨rfl, ⟨⟩⟩ | ⟨rfl, ⟨⟩⟩
  · exact hn ⟨rfl, List.mem_singleton.1 hm⟩
  · exact hl ⟨rfl, by simpa using hm⟩

theorem Declarations.likes_spans : Declarations.likes.Spans Schema.likes := by
  constructor
  case tables =>
    intro name columns hl
    rcases Schema.likes_lookup hl with ⟨rfl, ⟨⟩⟩ | ⟨rfl, ⟨⟩⟩
    · exact ⟨_, rfl, by decide⟩
    · exact ⟨_, rfl, by decide⟩
  case related => rintro related ⟨⟩
  case bound =>
    intro name hn declared hdeclared
    obtain ⟨columns?, hl⟩ := Option.isSome_iff_exists.1 hn
    rcases Schema.likes_lookup hl with ⟨rfl, -⟩ | ⟨rfl, -⟩
    · cases hdeclared
      exact ⟨_, List.mem_cons_self, "notes", rfl⟩
    · cases hdeclared
      exact ⟨_, List.mem_cons_self, "likes", rfl⟩

section

variable {hands : Argument Empty → Prop}

theorem Argument.Drawn.subject_likes : (Argument.subject (some Schema.likes)).Drawn
    (.data (.dict SchemaSource.likes)) hands :=
  .subject (by rw [ofSubject, SchemaSource.likes_schema]; rfl)

theorem Argument.Drawn.table_likes : (Argument.table "likes" false (some Schema.likes)).Drawn
    (.data (.dict SchemaSource.likes)) hands :=
  Argument.Drawn.subject_likes.chain ["likes"] rfl

theorem Argument.Drawn.note_likes : (Argument.column ⟨false, "note", "id"⟩).Drawn
    (.data (.dict SchemaSource.likes)) hands :=
  Argument.Drawn.subject_likes.chain ["note", "id"] rfl

end

/-- A like belongs to a note, by a column of some name. -/
def Expr.likes (column : String) : Expr Empty :=
  .comparison .eq ⟨true, "likes", column⟩ (.path ⟨false, "note", "id"⟩)

/-- A note is liked. -/
def Expr.liked (column : String) : Expr Empty := .related .exists "likes" (.likes column) 1

/-- It is built of the row that is handed out for the likes. -/
theorem Expr.liked_drawn [CharacterNames] {hands : Argument Empty → Prop} {a row : Argument Empty}
    {column : String} (ha : a.Drawn (.data (.dict SchemaSource.likes)) hands) (hhands : hands a)
    (hopen : Operator.openTable .exists a = .ok ("likes", row))
    (hcolumn : row.access column = .ok (.column ⟨true, "likes", column⟩)) :
    (Expr.liked column).Drawn (.data (.dict SchemaSource.likes)) hands := by
  have hlikes : (Expr.likes column).Drawn (.data (.dict SchemaSource.likes)) hands :=
    .compare ((Argument.Drawn.row ha hhands hopen).access hcolumn) .note_likes rfl
  have hcorrelated : Operator.isCorrelated "likes" (Expr.likes column) = true := by
    rw [Operator.isCorrelated, Expr.relatedTables_leaf rfl, Expr.paths_leaf rfl]
    rfl
  exact .related ha hopen rfl hlikes (Operator.related_expr hcorrelated .exists 1)

section

attribute [local instance] CharacterNames.empty

/-- The paths are captured on the subject and on the row of the likes, and a title is captured on
    neither. -/
theorem Rule.declared_of_drawn_of_likes :
    (SchemaSource.data (.dict SchemaSource.likes)).schema? = .ok (some Schema.likes) ∧
    (Expr.liked "note_id").Drawn (.data (.dict SchemaSource.likes)) Argument.IsCapture ∧
    Declarations.likes.Spans Schema.likes ∧
    (¬ ∃ err, Declarations.likes.validate (Expr.liked "note_id") = .error err ∧
      err.IsUndeclared) ∧
    (¬ ∃ err, ((Rule.expr (Expr.liked "note_id")).compile {} noFunctions Declarations.likes
      .null).result = .error err ∧ err.IsUndeclared) ∧
    (∃ err, (Argument.subject (some Schema.likes) : Argument Empty).chain ["likes", "title"] =
      .error err ∧ err.category? = some .pathResolution) ∧
    ∃ err, (Argument.ofScoped "posts" (.data (.dict SchemaSource.likes)) :
      Result (Argument Empty)) = .error err ∧ err.category? = some .pathResolution := by
  have hdrawn : (Expr.liked "note_id").Drawn (.data (.dict SchemaSource.likes))
      Argument.IsCapture := Expr.liked_drawn .table_likes trivial rfl rfl
  have hposts : ¬ Schema.likes.Names "posts" := Bool.false_ne_true
  obtain ⟨hrules, hnames, hrelated⟩ := Rule.declared_of_drawn SchemaSource.likes_schema
  obtain ⟨hvalidate, hcompile⟩ := hrules (.expr _) _ rfl hdrawn _ Declarations.likes_spans
  refine ⟨SchemaSource.likes_schema, hdrawn, Declarations.likes_spans, ?_, ?_,
    hnames _ _ .subject_likes ?_, hrelated _ hposts⟩
  · rintro ⟨err, herr, hu⟩
    exact hvalidate err herr hu
  · rintro ⟨err, herr, hu⟩
    exact hcompile _ _ _ err herr hu
  · exact .later (b := .table "likes" false (some Schema.likes)) rfl (.column rfl rfl
      (Schema.not_likes_lists (by decide) (by decide)))

/-- **A finished reference has forgotten the schema.**  The reference is got by a method of the table
    of likes, the row that is handed out for it takes a title, and the rule fails when it is checked
    and when it is compiled.  And what a table has of its own is given out before its columns are
    looked at: the schema lists no column of the name. -/
theorem Rule.undeclared_of_finished :
    (SchemaSource.data (.dict SchemaSource.likes)).schema? = .ok (some Schema.likes) ∧
    Declarations.likes.Spans Schema.likes ∧
    (Expr.liked "title").Drawn (.data (.dict SchemaSource.likes)) (fun _ => True) ∧
    (∃ err, Declarations.likes.validate (Expr.liked "title") = .error err ∧ err.IsUndeclared) ∧
    (∃ err, ((Rule.expr (Expr.liked "title")).compile {} noFunctions Declarations.likes
      .null).result = .error err ∧ err.IsUndeclared) ∧
    ¬ Schema.likes.Lists "note" "_table" ∧
    (Argument.subject (some Schema.likes) : Argument Empty).chain ["note", "_table"] =
      .ok (.value (.str "note")) := by
  have hfinished : (Argument.tableRef "likes").Drawn (.data (.dict SchemaSource.likes))
      (fun _ : Argument Empty => True) :=
    @Argument.Drawn.invoke _ _ _ _ "to_ref" _ .table_likes rfl
  have hunscoped : (Expr.liked "title").unscopedPaths [] = [] := rfl
  have hvalidate : ∃ err, Declarations.likes.validate (Expr.liked "title") = .error err ∧
      err.IsUndeclared := by
    refine ⟨.undeclaredColumn "likes" "title" (sortedNames ["note_id", "by"]), ?_, .inr rfl⟩
    rw [Declarations.validate, hunscoped, Expr.liked, Expr.relatedTables_related,
      Expr.paths_related, Expr.likes, Expr.relatedTables_leaf rfl, Expr.paths_leaf rfl]
    rfl
  exact ⟨SchemaSource.likes_schema, Declarations.likes_spans,
    Expr.liked_drawn hfinished trivial rfl rfl, hvalidate,
    ⟨.undeclaredColumn "likes" "title" _, rfl, .inr rfl⟩,
    Schema.not_likes_lists (by decide) (by decide), rfl⟩

end

end Clearance
