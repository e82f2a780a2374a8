/-
  A filter selects the rows that the evaluator allows.

  * `Expr.Typed`: the leaves of a tree compare columns of one type each, and its numbers of rows
    can be bound; then all tests of columns come out the same (`Expr.Typed.leavesAgree`) and
    all values of the clause can be bound (`Expr.bindable_of_clause`);
  * `Expr.Near`: each path is about the table of the related node right around it, or about the
    one that this node is in; then all columns of the clause are near (`Expr.Near.placed`);
  * `Rule.select_of_near`: if they are, the filter selects the rows that are allowed;
  * `Rule.select_agrees`: so it does where no related node lies inside another;
  * `Rule.select_binds`: where they do, all inner selections name their own tables only iff all
    columns are near, and then the filter does what it should.
-/
import Clearance.Proofs.Agreement.Leaf
import Clearance.Proofs.Filter.Declared

namespace Clearance

open Sql

variable {F : Type} {config : Config} {d : Declarations} {actor : Value} {main : String}
  {owner : String → String} {db : Database}

/-! ## Types -/

/-- The leaves of a tree compare columns of one type each, and its numbers of rows fit a word. -/
structure Expr.Typed (config : Config) (d : Declarations) (actor : Value)
    (owner : String → String) (db : Database) (opened : List String) (e : Expr Empty) : Prop where
  leaf : ∀ n ∈ e.scopedNodes opened, n.item.isLeaf = true →
    ∃ t, n.item.Compares config d actor owner db t
  count : ∀ n ∈ e.scopedNodes opened, ∀ kind table predicate minCount,
    n.item = .related kind table predicate minCount → Datum.hasWordSize minCount = true

namespace Expr.Typed

variable {opened opened' : List String} {e e' : Expr Empty}

theorem mono (h : e.Typed config d actor owner db opened)
    (hn : ∀ n ∈ e'.scopedNodes opened', n ∈ e.scopedNodes opened) :
    e'.Typed config d actor owner db opened' :=
  ⟨fun n h' => h.leaf n (hn n h'), fun n h' => h.count n (hn n h')⟩

/-- The tests of columns of one type come out the same on both sides. -/
theorem leavesAgree [CharacterNames] (h : e.Typed config d actor owner db opened)
    (ha : d.Arranges main owner opened e) :
    e.LeavesAgree config d actor main owner db opened := by
  intro n hn he s hv hs c hc
  obtain ⟨t, ht⟩ := h.leaf n hn he
  rw [← hs] at hc ⊢
  exact ht.agree he (ht.shown hv (ha.path n hn)) hc

/-- The clause of a tree over types has no searches. -/
theorem searches_eq (h : e.Typed config d actor owner db opened) {c : Clause}
    (hc : e.clause config d actor opened = .ok c) : c.searches = [] := by
  refine List.eq_nil_iff_forall_not_mem.2 fun q hq => ?_
  obtain ⟨n, hn, path, pattern, flags, he, -⟩ := e.searches_of_clause hc q hq
  obtain ⟨t, ht⟩ := h.leaf n hn (by rw [he]; rfl)
  exact ht.noPattern path pattern flags he

end Expr.Typed

/-- The values of the clause of a tree over types can be bound. -/
theorem Expr.bindable_of_clause (e : Expr Empty) : ∀ {opened c},
    e.Typed config d actor owner db opened → e.clause config d actor opened = .ok c →
    ∀ v ∈ c.bound, v.Bindable := by
  induction e using treeInduction with
  | literal value =>
    intro opened c _ h v hv
    cases h
    cases hv
  | leaf e he =>
    intro opened c ht h v hv
    rw [clause_leaf he] at h
    obtain ⟨-, ⟨s, rfl⟩ | hk⟩ := leafClause_bound he h v hv
    · exact ⟨_, rfl⟩
    · obtain ⟨type, hc⟩ := ht.leaf ⟨opened, e⟩ (self_mem_scopedNodes _ _) he
      exact (hc.constants v hk).bindable
  | function fn => exact fn.elim
  | related kind table predicate minCount ih =>
    intro opened c ht h v hv
    obtain ⟨columns, name, p, -, -, hp, rfl⟩ := clause_related_eq_ok.1 h
    have ih := ih (ht.mono fun n hn => mem_scopedNodes_related hn) hp
    have hw := ht.count ⟨opened, _⟩ (self_mem_scopedNodes _ _) _ _ _ _ rfl
    unfold rowsClause at hv
    split at hv
    · cases hv
    · rcases List.mem_cons.1 hv with rfl | hv
      · exact ⟨.integer 1, rfl⟩
      · exact ih v hv
    · rcases List.mem_append.1 hv with hv | hv
      · exact ih v hv
      · rw [List.mem_singleton] at hv
        subst hv
        exact (show ColumnType.int.Takes (.int minCount) from hw).bindable
  | not e ih =>
    intro opened c ht h v hv
    obtain ⟨p, hp, rfl⟩ := clause_not_eq_ok.1 h
    rw [Clause.joined_bound.negate] at hv
    exact ih (ht.mono fun n hn => mem_scopedNodes_not hn) hp v hv
  | junction kind rules ih =>
    intro opened c ht h v hv
    obtain ⟨cs, hcs, rfl⟩ := clause_junction_eq_ok.1 h
    obtain ⟨c, hc, hv⟩ := (junctionClause_madeOf (P := (· ∈ cs)) kind fun c hc => .base hc).mem
      Clause.joined_bound hv
    obtain ⟨e, he, hc⟩ := exists_of_mem_clauses hcs hc
    exact ih e he (ht.mono fun n hn => mem_scopedNodes_junction he hn) hc v hv

/-! ## Places -/

/-- Each path is about the table of the related node right around it, or about the table of what
    this node is in. -/
def Expr.Near (main : String) (e : Expr F) : Prop :=
  ∀ o ∈ e.references [], o.item.table ∈ (main :: o.around).reverse.take 2

/-- No related node lies inside another. -/
def Expr.Flat (e : Expr F) : Prop :=
  ∀ n ∈ e.scopedNodes [], ∀ kind table predicate minCount,
    n.item = .related kind table predicate minCount → n.around = []

section

variable {e : Expr Empty} {c : Clause}

theorem Expr.Flat.length_le (h : e.Flat) : ∀ n ∈ e.scopedNodes [], n.around.length ≤ 1 := by
  intro n hn
  obtain ⟨inner, hi, hm⟩ := e.around_of_mem hn
  rw [hi, List.nil_append]
  rcases List.eq_nil_or_concat' inner with rfl | ⟨l, table, rfl⟩
  · simp
  · obtain ⟨m, hm, hl, kind, predicate, minCount, he⟩ := hm l table [] rfl
    have hl' : l = [] := by simpa [h m hm _ _ _ _ he] using hl
    simp [hl']

/-- A path is about the main table or about a table that is open around it. -/
theorem Declarations.Binds.mem_of_reference (ha : d.Binds main owner [] e)
    (hc : d.Covers [] e) {o : Nested PathRef} (ho : o ∈ e.references []) :
    o.item.table ∈ main :: o.around := by
  obtain ⟨n, hn, hp, hno⟩ := Expr.mem_references.1 ho
  cases hs : o.item.isScoped with
  | true => exact List.mem_cons_of_mem _ (hc.scope o ho hs)
  | false => exact List.mem_cons.2 (.inl (ha.path n hn _ hp hs))

/-- Where no related node lies inside another, all paths are near. -/
theorem Expr.Flat.near (h : e.Flat) (ha : d.Binds main owner [] e) (hc : d.Covers [] e) :
    e.Near main := by
  intro o ho
  obtain ⟨n, hn, -, hno⟩ := mem_references.1 ho
  have hl : (main :: o.around).reverse.length ≤ 2 := by
    have hle := h.length_le n hn
    rw [← hno] at hle
    rw [List.length_reverse, List.length_cons]
    omega
  rw [List.take_of_length_le hl, List.mem_reverse]
  exact ha.mem_of_reference hc ho

/-- The tables that are open around a node belong to their SQL tables. -/
theorem Declarations.Binds.belongTo (ha : d.Binds main owner [] e) {n : Nested (Expr Empty)}
    (hn : n ∈ e.scopedNodes []) {table : String} (ht : table ∈ n.around) {columns : Columns}
    (hf : d.Finds table true columns) : columns.BelongTo (owner table) := by
  obtain ⟨inner, hi, hm⟩ := e.around_of_mem hn
  rw [hi, List.nil_append] at ht
  obtain ⟨l, r, rfl⟩ := List.append_of_mem ht
  obtain ⟨m, hm, -, kind, predicate, minCount, he⟩ := hm l table r rfl
  exact (ha.related m hm _ _ _ _ he).2 columns hf

theorem Declarations.Owners.eq_map {around owners : List String} (h : d.Owners around owners)
    (hb : ∀ table ∈ around, ∀ columns, d.Finds table true columns →
      columns.BelongTo (owner table)) : owners = around.map owner := by
  induction h with
  | nil => rfl
  | cons hx _ ih =>
    obtain ⟨columns, hf, ho⟩ := hx
    rw [List.map_cons, (hb _ (by simp) columns hf).owner_eq ho,
      ih fun table ht => hb table (List.mem_cons_of_mem _ ht)]

/-- **Where the columns of a clause are**: each column is that of a path of the tree, of the SQL
    table of the path, inside the selections from the tables that are open around the path. -/
theorem Declarations.Binds.placed (ha : d.Binds main owner [] e)
    (h : e.clause config d actor [] = .ok c) : ∀ q ∈ c.placed [owner main],
    ∃ o ∈ e.references [], q.around = (main :: o.around).map owner ∧
      q.item.table = some (owner o.item.table) := by
  intro q hq
  have hc := e.covers_of_clause h
  obtain ⟨o, ho, inner, handle, hi, hqa, ⟨columns, hf, hl⟩, hh⟩ :=
    e.placed_of_clause .nil h [owner main] q hq
  obtain ⟨n, hn, hp, hno⟩ := Expr.mem_references.1 ho
  have hb : ∀ table ∈ o.around, ∀ columns, d.Finds table true columns →
      columns.BelongTo (owner table) := by
    rw [hno]
    exact fun table ht columns hf => ha.belongTo hn ht hf
  refine ⟨o, ho, by rw [hqa, hi.eq_map hb]; rfl, ?_⟩
  rw [← hh]
  cases hs : o.item.isScoped with
  | true =>
    rw [hs] at hf
    exact (hb _ (hc.scope o ho hs) columns hf).table_eq hl
  | false =>
    have hm := ha.path n hn _ hp hs
    rw [hs, hm] at hf
    rw [hm]
    exact (ha.subject columns hf).table_eq hl

/-- Where all paths are near, so are all columns of the clause. -/
theorem Expr.Near.placed (hn : e.Near main) (ha : d.Binds main owner [] e)
    (h : e.clause config d actor [] = .ok c) : ∀ q ∈ c.placed [owner main], q.IsNear := by
  intro q hq table ht
  obtain ⟨o, ho, hqa, hqt⟩ := ha.placed h q hq
  rw [hqt, Option.mem_some_iff] at ht
  subst ht
  rw [hqa, ← List.map_reverse, ← List.map_take]
  exact List.mem_map_of_mem (hn o ho)

/-- Outside of the inner selections, all columns are those of the main table. -/
theorem Declarations.Binds.tables (ha : d.Binds main owner [] e)
    (h : e.clause config d actor [] = .ok c) : ∀ t ∈ c.tables, t = owner main := by
  intro t ht
  obtain ⟨column, hc, ht⟩ := Clause.mem_tables.1 ht
  obtain ⟨o, ho, hqa, hqt⟩ := ha.placed h _ (Clause.mem_placed_of_mem_columns hc)
  have hnil : o.around = [] := by simpa using hqa
  have hm := ha.mem_of_reference (e.covers_of_clause h) ho
  rw [hnil, List.mem_singleton] at hm
  dsimp only at hqt
  rw [ht, hm] at hqt
  exact Option.some.inj hqt

/-- **Inner selections name their own tables only iff all columns are near.** -/
theorem Declarations.Binds.selections_iff (ha : d.Binds main owner [] e)
    (h : e.clause config d actor [] = .ok c) :
    (∀ q ∈ c.selections (some [owner main]), q.2 = [q.1]) ↔
      ∀ q ∈ c.placed [owner main], q.IsNear := by
  refine c.selections_own_iff [] (owner main) fun t ht => ?_
  rw [ha.tables h t ht]
  simp

end

/-! ## Rules -/

/-- A filter of a rule, as the condition of a selection from the main table, selects the rows that
    the evaluator allows.  A limit on the number of nodes may stop the evaluator, which visits
    more of them than the compiler does. -/
def Rule.SelectsAllowed [CharacterNames] (r : Rule F) (config : Config) (call : Meaning F)
    (d : Declarations) (actor : Value) (main : String) (owner : String → String) (db : Database)
    (c : Clause) : Prop :=
  ∃ allows : Row → Bool,
    (∀ id : Column, id.table = some (owner main) → (Selection.mk [id] c).run db =
      .ok (((db.rows (owner main)).filter allows).map fun row => [cell row id])) ∧
    ∀ row ∈ db.rows (owner main),
      (r.evaluate config call actor (d.resources main owner db row)).result = .ok (allows row) ∨
      ∃ limit, config.maxExpressionNodes = some limit ∧
        (r.evaluate config call actor (d.resources main owner db row)).result =
          .error (.budgetExceeded limit)

/-- A selection from a table by a clause on columns of this table runs, and looks at the rows of
    this table one by one. -/
theorem Sql.Selection.run_own [CharacterNames] {c : Clause} {table : String} {id : Column}
    (hid : id.table = some table) (ht : ∀ t ∈ c.tables, t = table)
    (hs : ∀ q ∈ c.selections (some [table]), q.2 ≠ []) (hb : ∀ v ∈ c.bound, v.Bindable)
    (hq : c.Searchable db []) : (Selection.mk [id] c).run db = .ok (((db.rows table).filter fun row =>
      c.truthValue db [[(table, row)]] == some true).map fun row => [cell row id]) := by
  have hfrom : (Selection.mk [id] c).tables = [table] := by
    have hown : [id].filterMap Column.table = [table] := by simp [hid]
    rw [Selection.tables, hown]
    exact visibleTables_none_eq_own ht
  rw [Selection.run_eq (by rw [hfrom]; simp) (by rw [hfrom]; exact hs) hb hq,
    Selection.rows_eq hfrom]
  refine congrArg Except.ok (List.map_congr_left fun row _ => ?_)
  show [readColumn [[(table, row)]] id] = [cell row id]
  rw [readColumn_of_eq hid]

/-- Where all columns are near, a filter selects the rows for which it is true. -/
theorem Declarations.Binds.run_own [CharacterNames] {e : Expr Empty} {c : Clause}
    (ha : d.Binds main owner [] e) (ht : e.Typed config d actor owner db [])
    (hc : e.clause config d actor [] = .ok c) (hn : ∀ q ∈ c.placed [owner main], q.IsNear)
    {id : Column} (hid : id.table = some (owner main)) :
    (Selection.mk [id] c).run db = .ok (((db.rows (owner main)).filter fun row =>
      c.truthValue db [[(owner main, row)]] == some true).map fun row => [cell row id]) := by
  refine Selection.run_own hid (ha.tables hc) (fun q hq => ?_) (e.bindable_of_clause ht hc)
    (.of_nil (ht.searches_eq hc))
  rw [(ha.selections_iff hc).2 hn q hq]
  exact List.cons_ne_nil _ _

/-- A rule is evaluated as its expansion is decided, unless there are too many nodes. -/
theorem Rule.evaluate_of_decision [CharacterNames] {call : Meaning F} {r : Rule F} {e : Expr Empty}
    (he : r.expansion config call actor = some e) {resources : Value} {b : Bool}
    (hdec : e.decision config actor resources [] = .ok b) :
    (r.evaluate config call actor resources).result = .ok b ∨
      ∃ limit, config.maxExpressionNodes = some limit ∧
        (r.evaluate config call actor resources).result = .error (.budgetExceeded limit) := by
  have hf : Run.Follows config (r.evaluate config call actor resources)
      (e.decision config actor resources []) := Rule.evaluate_follows he
  rw [hdec] at hf
  exact hf {}

/-- Where all columns are near and each row of the main table comes out the same on both sides, a
    filter selects the rows that are allowed. -/
theorem Rule.select_of_agrees [CharacterNames] {call : Meaning F} {r : Rule F} {c : Clause}
    {e : Expr Empty} (h : (r.compile config call d actor).result = .ok c)
    (he : r.expansion config call actor = some e) (ha : d.Binds main owner [] e)
    (ht : e.Typed config d actor owner db []) (hn : ∀ q ∈ c.placed [owner main], q.IsNear)
    (hrow : ∀ row ∈ db.rows (owner main), e.Agrees config d actor db
      (d.resources main owner db row) [] [[(owner main, row)]]) :
    r.SelectsAllowed config call d actor main owner db c := by
  have hc : e.clause config d actor [] = .ok c := (Rule.compile_follows he).eq_ok h
  refine ⟨fun row => c.truthValue db [[(owner main, row)]] == some true,
    fun id hid => ha.run_own ht hc hn hid, fun row hr => ?_⟩
  obtain ⟨b, hdec, htruth⟩ := hrow row hr c hc
  have htruth : c.truthValue db [[(owner main, row)]] = some b :=
    htruth ((ha.selections_iff hc).2 hn)
  have hallows : (c.truthValue db [[(owner main, row)]] == some true) = b := by
    rw [htruth]
    cases b <;> rfl
  dsimp only
  rw [hallows]
  exact Rule.evaluate_of_decision he hdec

/-- Where all columns are near, a filter selects the rows that are allowed. -/
theorem Rule.select_of_near [CharacterNames] {call : Meaning F} {r : Rule F} {c : Clause}
    {e : Expr Empty} (h : (r.compile config call d actor).result = .ok c)
    (he : r.expansion config call actor = some e) (ha : d.Arranges main owner [] e)
    (ht : e.Typed config d actor owner db []) (hn : ∀ q ∈ c.placed [owner main], q.IsNear) :
    r.SelectsAllowed config call d actor main owner db c :=
  Rule.select_of_agrees h he ha.binds ht hn fun row hrow =>
    e.agree ⟨row, []⟩ ⟨hrow, ha.subject, .nil⟩ ha (ht.leavesAgree ha)

/-! ## Items with notes and likes -/

/-- The SQL tables of `itemTables`. -/
def itemOwner (name : String) : String := if name = "item" then "items" else name

/-- Two items, a note on the first of them, and likes by their owners. -/
def itemRows : Database :=
  [("items", [[("id", .integer 1), ("owner_id", .integer 7)],
      [("id", .integer 2), ("owner_id", .integer 8)]]),
   ("notes", [[("id", .integer 1), ("item_id", .integer 1)]]),
   ("likes", [[("id", .integer 1), ("user_id", .integer 7)],
      [("id", .integer 2), ("user_id", .integer 8)]])]

theorem itemTables_finds {name : String} {isScoped : Bool} {columns : Columns}
    (h : itemTables.Finds name isScoped columns) :
    columns.BelongTo (itemOwner name) ∧ ∀ entry ∈ columns, entry.2.column.type = some .int := by
  have hm : (name, columns) ∈ itemTables.all := by
    cases h with
    | subject ht => exact List.mem_append_right _ (Keyed.mem_of_lookup ht)
    | related hr ht => exact List.mem_append_left _ (hr ▸ Keyed.mem_of_lookup ht)
    | other _ ht => exact List.mem_append_right _ (Keyed.mem_of_lookup ht)
  simp only [itemTables, Declarations.all, Option.getD_some, List.cons_append, List.nil_append,
    List.mem_cons, Prod.mk.injEq, List.not_mem_nil, or_false] at hm
  rcases hm with ⟨rfl, rfl⟩ | ⟨rfl, rfl⟩ | ⟨rfl, rfl⟩ <;>
    simp [Columns.BelongTo, tableColumns, itemOwner]

theorem itemRows_holds (table : String) :
    ∀ row ∈ itemRows.rows table, ∀ c, ColumnType.int.Holds (cell row c) := by
  have hall : ∀ entry ∈ itemRows, ∀ row ∈ entry.2, ∀ x ∈ row, ColumnType.int.Holds x.2 := by
    simp +contextual [itemRows, or_imp, ColumnType.Holds]
  intro row hrow c
  unfold Database.rows at hrow
  cases ht : itemRows.lookup table with
  | none => rw [ht] at hrow; cases hrow
  | some rows =>
    rw [ht] at hrow
    unfold cell
    cases hc : row.lookup c.name with
    | none => trivial
    | some x => exact hall _ (Keyed.mem_of_lookup ht) row hrow _ (Keyed.mem_of_lookup hc)

theorem itemTables_compares {e : Expr F}
    (hk : ∀ v ∈ e.constants config actor, ColumnType.int.Takes v)
    (ht : ∀ test path text, e ≠ .textMatch test path text)
    (hp : ∀ path pattern flags, e ≠ .matches path pattern flags) :
    e.Compares config itemTables actor itemOwner itemRows .int where
  columns p _ h hd := by
    obtain ⟨columns, hf, hl⟩ := hd
    exact ⟨(itemTables_finds hf).2 _ (Keyed.mem_of_lookup hl),
      fun row hrow => itemRows_holds _ row hrow _⟩
  constants := hk
  text test path text h := absurd h (ht test path text)
  apart test path text h := absurd h (ht test path text)
  noPattern := hp

theorem itemTables_arranges {e : Expr Empty}
    (hp : ∀ n ∈ e.scopedNodes [], ∀ p ∈ n.item.nodePaths, p.isScoped = false → p.table = "item")
    (hr : ∀ n ∈ e.scopedNodes [], ∀ kind table predicate minCount,
      n.item = .related kind table predicate minCount →
        (table = "notes" ∨ table = "likes") ∧ table ∉ n.around.map itemOwner) :
    itemTables.Arranges "item" itemOwner [] e where
  subject _ hf := (itemTables_finds hf).1
  path := hp
  related n hn kind table predicate minCount h := by
    obtain ⟨ht, hnew⟩ := hr n hn kind table predicate minCount h
    have howner : itemOwner table = table := by rcases ht with rfl | rfl <;> rfl
    refine ⟨?_, ?_, by rwa [howner], fun _ hf => (itemTables_finds hf).1⟩ <;>
      rcases ht with rfl | rfl <;> simp [itemOwner]

/-- The items with notes on them. -/
def notedItems : Rule Empty :=
  .expr (.related .exists "notes"
    (.comparison .eq ⟨true, "notes", "item_id"⟩ (.path ⟨false, "item", "id"⟩)) 1)

/-- The items with notes on them for which there are two likes by a user. -/
def likedItems (user : PathRef) : Rule Empty :=
  .expr (.related .exists "notes" (.junction .and
    [.comparison .eq ⟨true, "notes", "item_id"⟩ (.path ⟨false, "item", "id"⟩),
     .related .count "likes" (.comparison .eq ⟨true, "likes", "user_id"⟩ (.path user)) 2]) 1)

/-! ## Notes with a text -/

/-- Notes with a text. -/
def noteTables : Declarations where
  tables := [("note", tableColumns "notes" [("id", .int), ("body", .str)] false)]
  related := none

/-- A note with a text, and one without. -/
def textRows (text : String) : Database :=
  [("notes", [[("id", .integer 1), ("body", .text text)], [("id", .integer 2), ("body", .null)]])]

theorem mem_textRows {text : String} {row : Row} (h : row ∈ (textRows text).rows "notes") :
    row = [("id", .integer 1), ("body", .text text)] ∨
      row = [("id", .integer 2), ("body", .null)] := by
  simpa [textRows, Database.rows] using h

/-- The notes that begin with a text. -/
def notesFrom (text : String) : Expr Empty := .textMatch .startsWith ⟨false, "note", "body"⟩ text

/-! ## Agreement -/

/-- **A filter selects the rows that the evaluator allows**, where no related node lies inside
    another and each leaf compares columns of one type, with texts that `LIKE` tells apart. -/
theorem Rule.select_agrees [CharacterNames] (config : Config) (call : Meaning F) (d : Declarations)
    (actor : Value) (main : String) (owner : String → String) (db : Database) (r : Rule F)
    (c : Clause) (h : (r.compile config call d actor).result = .ok c) :
    ∃ e, r.expansion config call actor = some e ∧
      (e.Flat → d.Arranges main owner [] e → e.Typed config d actor owner db [] →
        r.SelectsAllowed config call d actor main owner db c) := by
  obtain ⟨e, he, hc⟩ := Rule.expansion_of_compile h
  exact ⟨e, he, fun hf ha ht =>
    Rule.select_of_near h he ha ht
      ((hf.near ha.binds (e.covers_of_clause hc)).placed ha.binds hc)⟩

section

attribute [local instance] CharacterNames.empty

/-- The items with notes on them. -/
theorem Rule.select_agrees_of_notes :
    notedItems.SelectsAllowed {} noFunctions itemTables .null "item" itemOwner itemRows
      (.exists "notes"
        (.same ⟨"item_id", some "notes", some .int⟩ ⟨"id", some "items", some .int⟩)) := by
  obtain ⟨e, he, hs⟩ := Rule.select_agrees {} noFunctions itemTables .null "item"
    itemOwner itemRows notedItems _ rfl
  cases he
  refine hs ?_ (itemTables_arranges ?_ ?_) ⟨?_, ?_⟩
  · simp [Expr.Flat, Expr.scopedNodes]
  · simp [Expr.scopedNodes, Expr.nodePaths, Operand.path?]
  · simp +contextual [Expr.scopedNodes, eq_comm]
  · intro n hn he
    refine ⟨.int, itemTables_compares ?_ ?_ ?_⟩ <;> revert n
    all_goals simp [Expr.scopedNodes, Expr.constants, Operand.constant?, Expr.isLeaf]
  · simp +contextual [Expr.scopedNodes, eq_comm, Datum.hasWordSize]

/-- Without the last condition it does not: a note is selected for a character that it does not begin
    with, but that `LIKE` takes its first one for. -/
theorem Rule.select_blurs_text : ∃ c,
    ((Rule.expr (notesFrom "\ufffd")).compile {} noFunctions noteTables .null).result = .ok c ∧
    Text.NulFree "\ufffd" ∧
    (∀ row ∈ (textRows "\ufffe").rows "notes",
      ColumnType.int.Holds (cell row ⟨"id", some "notes", some .int⟩) ∧
      ColumnType.str.Holds (cell row ⟨"body", some "notes", some .str⟩) ∧
      ((Rule.expr (notesFrom "\ufffd")).evaluate {} noFunctions .null (noteTables.resources "note"
        (fun _ => "notes") (textRows "\ufffe") row)).result = .ok false) ∧
    (Selection.mk [⟨"id", some "notes", some .int⟩] c).run (textRows "\ufffe") =
      .ok [[.integer 1]] := by
  refine ⟨_, rfl, by unfold Text.NulFree; decide, fun row hrow => ?_, rfl⟩
  rcases mem_textRows hrow with rfl | rfl
  · have htext : Text.NulFree "\ufffe" := by unfold Text.NulFree; decide
    exact ⟨trivial, htext, rfl⟩
  · exact ⟨trivial, trivial, rfl⟩

end

/-- **Which rows nested related nodes are about.**  All inner selections of a filter name their
    own tables only iff all its columns are near, as they are if all paths of the rule are.  With
    such selections around it, a path is read from the same row on both sides, and the filter
    selects the rows that the evaluator allows. -/
theorem Rule.select_binds [CharacterNames] (config : Config) (call : Meaning F) (d : Declarations)
    (actor : Value) (main : String) (owner : String → String) (db : Database) (r : Rule F)
    (c : Clause) (h : (r.compile config call d actor).result = .ok c) :
    ∃ e, r.expansion config call actor = some e ∧ (d.Arranges main owner [] e →
      ((∀ q ∈ c.selections (some [owner main]), q.2 = [q.1]) ↔
        ∀ q ∈ c.placed [owner main], q.IsNear) ∧
      (e.Near main → ∀ q ∈ c.placed [owner main], q.IsNear) ∧
      (∀ o ∈ e.references [], ∀ s : Scene, s.Valid d main owner db → s.opened = o.around →
        ∃ row handle, s.rowOf o.item = some row ∧ d.Declares o.item handle ∧
          readColumn (s.frames main owner) handle.column = cell row handle.column ∧
          readPath (s.resources d main owner db) o.item =
            (cell row handle.column).value handle.column.type) ∧
      (e.Typed config d actor owner db [] → (∀ q ∈ c.placed [owner main], q.IsNear) →
        r.SelectsAllowed config call d actor main owner db c)) := by
  obtain ⟨e, he, hc⟩ := Rule.expansion_of_compile h
  have hcov := e.covers_of_clause hc
  refine ⟨e, he, fun ha => ⟨ha.binds.selections_iff hc, fun hn => hn.placed ha.binds hc,
    fun o ho s hv hs => ?_, fun ht hn => Rule.select_of_near h he ha ht hn⟩⟩
  obtain ⟨n, hn, hp, -⟩ := Expr.mem_references.1 ho
  obtain ⟨handle, hd⟩ := hcov.path o ho
  have hopen : o.item.isScoped = true → o.item.table ∈ s.opened := by
    rw [hs]
    exact hcov.scope o ho
  obtain ⟨row, hr, -, hread, hpath⟩ := Scene.reads hv hopen (ha.path n hn _ hp) hd
  exact ⟨row, handle, hr, hd, hread, hpath⟩

section

attribute [local instance] CharacterNames.empty

/-- Likes that are compared with the notes right around them. -/
theorem Rule.select_binds_of_enclosing : ∃ c,
    ((likedItems ⟨true, "notes", "id"⟩).compile {} noFunctions itemTables
      .null).result = .ok c ∧
    (∀ q ∈ c.selections (some ["items"]), q.2 = [q.1]) ∧
    (likedItems ⟨true, "notes", "id"⟩).SelectsAllowed {} noFunctions itemTables .null
      "item" itemOwner itemRows c := by
  refine ⟨_, rfl, ?_⟩
  obtain ⟨e, he, hs⟩ := Rule.select_binds {} noFunctions itemTables .null "item"
    itemOwner itemRows (likedItems ⟨true, "notes", "id"⟩) _ rfl
  cases he
  obtain ⟨hfrom, hnear, -, hsel⟩ := hs (itemTables_arranges
    (by simp [Expr.scopedNodes, Expr.scopedAll, Expr.nodePaths, Operand.path?])
    (by simp +contextual [Expr.scopedNodes, Expr.scopedAll, itemOwner, eq_comm]))
  have hn := hnear (by
    simp [Expr.Near, Expr.references, Expr.scopedNodes, Expr.scopedAll, Expr.nodePaths,
      Operand.path?])
  refine ⟨hfrom.2 hn, hsel ⟨?_, ?_⟩ hn⟩
  · intro n hn he
    refine ⟨.int, itemTables_compares ?_ ?_ ?_⟩ <;> revert n
    all_goals
      simp [Expr.scopedNodes, Expr.scopedAll, Expr.constants, Operand.constant?, Expr.isLeaf]
  · simp +contextual [Expr.scopedNodes, Expr.scopedAll, eq_comm, Datum.hasWordSize]

/-- Likes that are compared with the items further out: the inner selection names the table of
    the items again, and an item is selected that the evaluator does not allow. -/
theorem Rule.select_reopens_main : ∃ c,
    ((likedItems ⟨false, "item", "owner_id"⟩).compile {} noFunctions itemTables
      .null).result = .ok c ∧
    ("likes", ["likes", "items"]) ∈ c.selections (some ["items"]) ∧
    (Selection.mk [⟨"id", some "items", some .int⟩] c).run itemRows = .ok [[.integer 1]] ∧
    ∀ row ∈ itemRows.rows "items",
      ((likedItems ⟨false, "item", "owner_id"⟩).evaluate {} noFunctions .null
        (itemTables.resources "item" itemOwner itemRows row)).result = .ok false := by
  refine ⟨_, rfl, by decide, rfl, fun row hrow => ?_⟩
  have hrow : row = [("id", .integer 1), ("owner_id", .integer 7)] ∨
      row = [("id", .integer 2), ("owner_id", .integer 8)] := by
    simpa [itemRows, Database.rows] using hrow
  rcases hrow with rfl | rfl <;> rfl

end

end Clearance
