/-
  The rows that a rule is looked at with, for the evaluator and in a database.

  * `Declarations.resources` are the resources for a row of the main table: the record of the row,
    and the records of all rows of the other tables;
  * a `Scene` is a row of the main table with rows of the tables that are open; its `frames` are
    what the clause is looked at with, and its `resources` what the evaluator sees;
  * `Scene.Valid`: the rows are rows of the database, and their SQL tables are distinct;
  * `Scene.reads`: a path is read from the same row on both sides, and `Scene.rows_of_closed`: a
    table that is not open still stands for all its rows.
-/
import Clearance.Proofs.Filter.Guarded
import Clearance.Proofs.Sql.Running

namespace Clearance

open Sql

/-! ## Records -/

/-- The datum of a column in a row. -/
def Sql.cell (row : Row) (c : Column) : Datum := (row.lookup c.name).getD .null

/-- The value that a datum is read as, in a column of a type. -/
def Sql.Datum.value (type : Option ColumnType) : Datum → Value
  | .null => .null
  | .integer i => if type = some .bool then .bool (i != 0) else .int i
  | .real x => .scalar (.float x)
  | .text s => .str s
  | .blob bs => .bytes bs

/-- The record of a row: the values of its declared columns. -/
def Columns.record (columns : Columns) (row : Row) : Value :=
  .dict (columns.map fun entry =>
    (entry.1, (cell row entry.2.column).value entry.2.column.type))

/-- All columns belong to a SQL table. -/
def Columns.BelongTo (columns : Columns) (owner : String) : Prop :=
  ∀ entry ∈ columns, entry.2.column.table = some owner

theorem Columns.field_record {columns : Columns} {name : String} {h : Handle}
    (hl : columns.lookup name = some h) (row : Row) :
    (columns.record row).field name = (cell row h.column).value h.column.type := by
  show (((columns.map fun entry => (entry.1, (cell row entry.2.column).value
    entry.2.column.type)).lookup name).getD .null) = _
  rw [Keyed.lookup_map fun _ (h : Handle) => (cell row h.column).value h.column.type, hl]
  rfl

theorem Columns.BelongTo.owner_eq {columns : Columns} {owner name : String}
    (h : columns.BelongTo owner) (hn : columns.owner = .ok name) : name = owner := by
  unfold Columns.owner at hn
  split at hn
  · rename_i table ht
    cases hn
    obtain ⟨entry, he, ht⟩ := List.exists_of_findSome?_eq_some ht
    rw [h entry he] at ht
    exact (Option.some.inj ht).symm
  · cases hn

theorem Columns.BelongTo.table_eq {columns : Columns} {owner name : String} {h : Handle}
    (hb : columns.BelongTo owner) (hl : columns.lookup name = some h) :
    h.column.table = some owner := hb (name, h) (Keyed.mem_of_lookup hl)

/-- The columns that a related table is found with are the first of this name. -/
theorem Declarations.lookup_all {d : Declarations} {name : String} {columns : Columns}
    (h : d.Finds name true columns) : d.all.lookup name = some columns := by
  rw [Declarations.all, List.lookup_append]
  cases h with
  | related hr hl => rw [hr, Option.getD_some, hl]; rfl
  | other hr hl =>
    cases h : d.related with
    | none => rw [Option.getD_none, hl]; rfl
    | some tables => rw [Option.getD_some, hr tables h, hl]; rfl

/-! ## Resources -/

section

variable (d : Declarations) (main : String) (owner : String → String) (db : Database)

/-- The record of a row of a table. -/
def Declarations.record (name : String) (isScoped : Bool) (row : Row) : Value :=
  ((d.declared name isScoped).toOption.getD []).record row

/-- The fields of the resources for a row of the main table. -/
def Declarations.fields (row : Row) : List (String × Value) :=
  (main, d.record main false row) ::
    d.all.map fun t => (t.1, .list ((db.rows (owner t.1)).map t.2.record))

/-- The resources for a row of the main table: its record, and the records of all rows of the
    other tables. -/
def Declarations.resources (row : Row) : Value := .dict (d.fields main owner db row)

/-! ## Scenes -/

/-- Rows that are looked at together. -/
structure Scene where
  /-- The row of the main table. -/
  row : Row
  /-- The rows of the open tables, the innermost first. -/
  current : List (String × Row)

namespace Scene

/-- The open tables, the outermost first. -/
def opened (s : Scene) : List String := (s.current.map Prod.fst).reverse

/-- What a clause is looked at with. -/
def frames (s : Scene) : List Frame :=
  s.current.map (fun x => [(owner x.1, x.2)]) ++ [[(owner main, s.row)]]

/-- The fields of the resources with some tables bound to rows. -/
def bound (row : Row) : List (String × Row) → List (String × Value)
  | [] => d.fields main owner db row
  | (table, r) :: rest => Keyed.setKey table (d.record table true r) (bound row rest)

/-- What the evaluator sees. -/
def resources (s : Scene) : Value := .dict (bound d main owner db s.row s.current)

/-- The row at hand that a path is about. -/
def rowOf (s : Scene) (p : PathRef) : Option Row :=
  if p.isScoped then s.current.lookup p.table else some s.row

/-- Opened tables with rows of the database, over distinct SQL tables. -/
inductive ValidRows : List (String × Row) → Prop
  | nil : ValidRows []
  | cons {table row rest} : ValidRows rest → row ∈ db.rows (owner table) → table ≠ main →
      owner table ≠ owner main → owner table ∉ rest.map (fun x => owner x.1) →
      (∀ columns, d.Finds table true columns → columns.BelongTo (owner table)) →
      ValidRows ((table, row) :: rest)

/-- The rows are rows of the database, and their SQL tables are distinct. -/
structure Valid (s : Scene) : Prop where
  row : s.row ∈ db.rows (owner main)
  subject : ∀ columns, d.Finds main false columns → columns.BelongTo (owner main)
  rows : ValidRows d main owner db s.current

end Scene

end

/-! ## Reading -/

theorem readColumn_of_eq {c : Column} {table : String} (h : c.table = some table) (row : Row)
    (rest : List Frame) : readColumn ([(table, row)] :: rest) c = cell row c := by
  unfold readColumn
  rw [h]
  simp [cell]

theorem readColumn_of_ne {c : Column} {table other : String} (h : c.table = some table)
    (hne : table ≠ other) (row : Row) (rest : List Frame) :
    readColumn ([(other, row)] :: rest) c = readColumn rest c := by
  have hl : ([(other, row)] : Frame).lookup table = none := by
    have hb : (table == other) = false := by simpa using hne
    simp [List.lookup_cons, hb]
  unfold readColumn
  rw [h]
  simp [hl]

theorem readPath_of_field {fields : List (String × Value)} {p : PathRef} {columns : Columns}
    {row : Row} {h : Handle} (hf : fields.lookup p.table = some (columns.record row))
    (hl : columns.lookup p.column = some h) :
    readPath (.dict fields) p = (cell row h.column).value h.column.type := by
  have he : (Value.dict fields).field p.table = columns.record row := by
    show (fields.lookup p.table).getD .null = _
    rw [hf]
    rfl
  unfold readPath
  rw [he]
  exact Columns.field_record hl row

namespace Scene

variable {d : Declarations} {main : String} {owner : String → String} {db : Database}

theorem record_eq {name : String} {isScoped : Bool} {columns : Columns}
    (h : d.Finds name isScoped columns) (row : Row) :
    d.record name isScoped row = columns.record row := by
  rw [Declarations.record, Declarations.declared_eq_ok.2 h]
  rfl

/-! ### Resources -/

theorem lookup_bound_of_not_mem (row : Row) {name : String} {current : List (String × Row)}
    (h : name ∉ current.map Prod.fst) :
    (bound d main owner db row current).lookup name =
      (d.fields main owner db row).lookup name := by
  induction current with
  | nil => rfl
  | cons x rest ih =>
    rw [List.map_cons, List.mem_cons, not_or] at h
    rw [bound, Keyed.lookup_setKey_of_ne h.1, ih h.2]

theorem lookup_bound_of_lookup (row : Row) {name : String} {r : Row}
    {current : List (String × Row)} (h : current.lookup name = some r) :
    (bound d main owner db row current).lookup name = some (d.record name true r) := by
  induction current with
  | nil => cases h
  | cons x rest ih =>
    obtain ⟨table, r'⟩ := x
    by_cases he : name = table
    · subst he
      rw [List.lookup_cons_self, Option.some.injEq] at h
      subst h
      exact Keyed.lookup_setKey_self _ _ _
    · have hb : (name == table) = false := by simpa using he
      rw [List.lookup_cons, hb] at h
      rw [bound, Keyed.lookup_setKey_of_ne he]
      exact ih h

/-! ### Frames -/

namespace ValidRows

theorem ne_main {current : List (String × Row)} (hv : ValidRows d main owner db current) :
    main ∉ current.map Prod.fst := by
  induction hv with
  | nil => simp
  | cons _ _ hne _ _ _ ih =>
    rw [List.map_cons, List.mem_cons, not_or]
    exact ⟨hne.symm, ih⟩

/-- The row of an open table is a row of the database. -/
theorem of_lookup {name : String} {r : Row} {current : List (String × Row)}
    (hv : ValidRows d main owner db current) (h : current.lookup name = some r) :
    r ∈ db.rows (owner name) ∧ owner name ∈ current.map (fun x => owner x.1) ∧
      ∀ columns, d.Finds name true columns → columns.BelongTo (owner name) := by
  induction hv with
  | nil => cases h
  | @cons table row rest _ hr _ _ _ hb ih =>
    by_cases he : name = table
    · subst he
      rw [List.lookup_cons_self, Option.some.injEq] at h
      subst h
      exact ⟨hr, by simp, hb⟩
    · have hn : (name == table) = false := by simpa using he
      rw [List.lookup_cons, hn] at h
      obtain ⟨h₁, h₂, h₃⟩ := ih h
      exact ⟨h₁, List.mem_cons_of_mem _ h₂, h₃⟩

/-- The rows of open tables do not hide the row of the main table. -/
theorem readColumn_main {row : Row} {c : Column} {current : List (String × Row)}
    (hv : ValidRows d main owner db current) (hc : c.table = some (owner main)) :
    readColumn (frames main owner ⟨row, current⟩) c = cell row c := by
  induction hv with
  | nil => exact readColumn_of_eq hc row []
  | cons _ _ _ hno _ _ ih => exact (readColumn_of_ne hc hno.symm _ _).trans ih

/-- The row of an open table is hidden by no other. -/
theorem readColumn_open {row r : Row} {name : String} {c : Column}
    {current : List (String × Row)} (hv : ValidRows d main owner db current)
    (h : current.lookup name = some r) (hc : c.table = some (owner name)) :
    readColumn (frames main owner ⟨row, current⟩) c = cell r c := by
  induction hv with
  | nil => cases h
  | @cons table row' rest hv _ _ _ hno _ ih =>
    by_cases he : name = table
    · subst he
      rw [List.lookup_cons_self, Option.some.injEq] at h
      subst h
      exact readColumn_of_eq hc _ _
    · have hn : (name == table) = false := by simpa using he
      rw [List.lookup_cons, hn] at h
      have hne : owner name ≠ owner table := fun e => hno (e ▸ (hv.of_lookup h).2.1)
      exact (readColumn_of_ne hc hne _ _).trans (ih h)

end ValidRows

theorem exists_lookup_of_mem_opened {s : Scene} {name : String} (h : name ∈ s.opened) :
    ∃ row, s.current.lookup name = some row := by
  obtain ⟨row, current⟩ := s
  rw [opened, List.mem_reverse] at h
  dsimp only at h ⊢
  induction current with
  | nil => cases h
  | cons x rest ih =>
    obtain ⟨table, r⟩ := x
    by_cases he : name = table
    · exact ⟨r, by rw [he, List.lookup_cons_self]⟩
    · have hn : (name == table) = false := by simpa using he
      rw [List.lookup_cons, hn]
      exact ih ((List.mem_cons.1 h).resolve_left he)

/-- **A path is read from the same row on both sides**: from the row at hand of its table. -/
theorem reads {s : Scene} (hv : s.Valid d main owner db) {p : PathRef} {h : Handle}
    (hp : p.isScoped = true → p.table ∈ s.opened) (hm : p.isScoped = false → p.table = main)
    (hd : d.Declares p h) :
    ∃ row, s.rowOf p = some row ∧ row ∈ db.rows (owner p.table) ∧
      readColumn (s.frames main owner) h.column = cell row h.column ∧
      readPath (s.resources d main owner db) p = (cell row h.column).value h.column.type := by
  obtain ⟨columns, hf, hl⟩ := hd
  cases hs : p.isScoped with
  | true =>
    rw [hs] at hf
    obtain ⟨row, hr⟩ := exists_lookup_of_mem_opened (hp hs)
    obtain ⟨hmem, -, hb⟩ := hv.rows.of_lookup hr
    refine ⟨row, by rw [rowOf, if_pos hs, hr], hmem,
      hv.rows.readColumn_open hr ((hb columns hf).table_eq hl), readPath_of_field ?_ hl⟩
    rw [lookup_bound_of_lookup _ hr, record_eq hf]
  | false =>
    have ht := hm hs
    rw [hs, ht] at hf
    refine ⟨s.row, by simp [rowOf, hs], by rw [ht]; exact hv.row,
      hv.rows.readColumn_main ((hv.subject columns hf).table_eq hl), readPath_of_field ?_ hl⟩
    rw [ht, lookup_bound_of_not_mem _ hv.rows.ne_main, ← record_eq hf]
    exact List.lookup_cons_self

/-- A table that is not open stands for all its rows. -/
theorem rows_of_closed {s : Scene} {table : String} {columns : Columns} (ht : table ∉ s.opened)
    (hm : table ≠ main) (hf : d.Finds table true columns) :
    (s.resources d main owner db).field table =
      .list ((db.rows (owner table)).map columns.record) := by
  have hn : table ∉ s.current.map Prod.fst := by simpa [opened] using ht
  have hb : (table == main) = false := by simpa using hm
  show ((bound d main owner db s.row s.current).lookup table).getD .null = _
  rw [lookup_bound_of_not_mem _ hn, Declarations.fields, List.lookup_cons, hb]
  dsimp only
  rw [Keyed.lookup_map fun name (cs : Columns) => Value.list ((db.rows (owner name)).map cs.record),
    Declarations.lookup_all hf]
  rfl

/-! ### Opening a table -/

theorem opened_cons (row r : Row) (table : String) (current : List (String × Row)) :
    (Scene.mk row ((table, r) :: current)).opened = (Scene.mk row current).opened ++ [table] := by
  simp [opened]

/-- Binding an open table to a row gives the resources of the scene with this row. -/
theorem bindTable_resources {s : Scene} {table : String} {columns : Columns}
    (hf : d.Finds table true columns) (r : Row) :
    bindTable (s.resources d main owner db) table (columns.record r) =
      .ok ((Scene.mk s.row ((table, r) :: s.current)).resources d main owner db) := by
  rw [← record_eq hf]
  rfl

end Scene

end Clearance
