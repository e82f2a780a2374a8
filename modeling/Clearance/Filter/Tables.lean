/-
  The tables and columns that a filter may touch.

  A caller declares, for each table of its rules, which columns of which SQL tables stand for
  the columns of the rules.  Paths of the subject are looked up among the tables; scoped
  paths and related tables are looked up among the related tables first.  Whatever is not
  declared is refused.

  * `Columns` are the declared columns of a table, `Tables` the declared tables, and
    `Declarations` the two lists of tables that a filter is built with;
  * `TableSource.columns` declares the columns of a source, all of them or only some;
  * `Declarations.table` and `Declarations.column` look up a related table and a path;
  * `Columns.owner` is the SQL table of declared columns;
  * `Declarations.validate` checks a rule without building a filter.
-/
import Clearance.Sql.Clause
import Clearance.Rule.Walk
import Clearance.Rule.Coercion

namespace Clearance

open Sql

/-- A declared column; one that belongs to a mapped class is named after the class. -/
structure Handle where
  column : Column
  isMapped : Bool
deriving DecidableEq, Repr

/-- The text of a declared column. -/
def Handle.text (h : Handle) : String :=
  match h.column.table with
  | none => h.column.name
  | some table => (if h.isMapped then "Mapped" else table) ++ "." ++ h.column.name

/-- The declared columns of a table. -/
abbrev Columns := List (String × Handle)

/-- Declared tables. -/
abbrev Tables := List (String × Columns)

/-- The tables that a filter is built with. -/
structure Declarations where
  tables : Tables
  related : Option Tables

/-- What columns are declared from. -/
inductive TableSource where
  /-- A SQL table with its columns, or a class that is mapped to it. -/
  | table (name : String) (columns : List (String × ColumnType)) (isMapped : Bool)
  /-- Columns that are declared already. -/
  | ready (columns : Columns)
  /-- Anything else. -/
  | value (v : Value)

/-- Columns that belong to no table. -/
def unboundColumns (names : List String) : Columns :=
  names.map fun name => (name, ⟨⟨name, none, none⟩, false⟩)

/-- The columns of a SQL table. -/
def tableColumns (table : String) (columns : List (String × ColumnType)) (isMapped : Bool) :
    Columns :=
  columns.map fun c => (c.1, ⟨⟨c.1, some table, some c.2⟩, isMapped⟩)

/-- Some of the columns, in the order in which they are asked for, each once. -/
def Columns.only (columns : Columns) (names : List String) : Result Columns :=
  let missing := names.filter fun name => (columns.lookup name).isNone
  if missing.isEmpty then
    .ok ((distinctNames names).filterMap fun name => (columns.lookup name).map (name, ·))
  else .error (.missingColumns missing (sortedNames (columns.map Prod.fst)))

/-- Declares the columns of a source; a list of names restricts them. -/
def TableSource.columns (source : TableSource) (only : Option (List String)) : Result Columns :=
  match source with
  | table name columns isMapped =>
    match only with
    | none => .ok (tableColumns name columns isMapped)
    | some names => Columns.only (tableColumns name columns isMapped) names
  | ready columns => .ok columns
  | value v => .error (.notMappable v.display)

/-- Declares tables from sources; a dictionary that holds nothing declares no column. -/
def declareTables (sources : List (String × TableSource)) : Result Tables :=
  sources.mapM fun s => do
    match s.2 with
    | .value (.dict []) => return (s.1, [])
    | source => return (s.1, ← source.columns none)

namespace Declarations

/-! ## Look-up -/

/-- The columns of a table; related tables come first if they are looked at at all. -/
def declared (d : Declarations) (name : String) (isScoped : Bool) : Result Columns :=
  match (if isScoped then d.related.bind (·.lookup name) else none) with
  | some columns => .ok columns
  | none =>
    match d.tables.lookup name with
    | some columns => .ok columns
    | none =>
      let names := d.tables.map Prod.fst ++
        if isScoped then (d.related.getD []).map Prod.fst else []
      .error (.undeclaredTable name (sortedNames names))

/-- The columns of a related table. -/
def table (d : Declarations) (name : String) : Result Columns := d.declared name true

/-- The column of a path. -/
def column (d : Declarations) (p : PathRef) : Result Handle := do
  let columns ← d.declared p.table p.isScoped
  match columns.lookup p.column with
  | some h => return h
  | none =>
    throw (.undeclaredColumn p.table p.column (sortedNames (columns.map Prod.fst)))

/-- All tables, the related ones in front of others of the same name. -/
def all (d : Declarations) : Tables := d.related.getD [] ++ d.tables

end Declarations

/-- The SQL table of declared columns. -/
def Columns.owner (columns : Columns) : Result String :=
  match columns.findSome? fun c => c.2.column.table with
  | some table => .ok table
  | none => .error (.unboundTable (sortedNames (columns.map Prod.fst)))

/-! ## Validation -/

/-- Checks that all that an expression uses is declared; functions are not looked into. -/
def Declarations.validate {F : Type} (d : Declarations) (e : Expr F) : Result Unit := do
  match (e.unscopedPaths []).head? with
  | some p => throw (.strayPath p none)
  | none =>
    e.relatedTables.forM fun name => do discard (d.table name)
    e.paths.forM fun p => do discard (d.column p)

end Clearance
