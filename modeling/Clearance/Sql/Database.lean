/-
  Running a selection.

  A database holds rows by table.  A clause is true, false or neither on given rows: those of
  the selections around it, the innermost first, each of which binds the tables that it
  names.  An inner selection runs through all combinations of rows of its own tables.

  * `Clause.truthValue` is the truth value of a clause, `Clause.fails` tells whether looking
    for it fails;
  * `Selection.rows` is the result of a selection, and `Selection.run` adds what can fail;
  * `Database.insert` puts rows into a table.
-/
import Clearance.Sql.Datum
import Clearance.Sql.Statement
import Clearance.Pattern.Search

namespace Clearance.Sql

/-- A row: the data of its columns. -/
abbrev Row := List (String × Datum)

/-- The rows of tables. -/
abbrev Database := List (String × List Row)

/-- The rows that a selection is looking at, by table. -/
abbrev Frame := List (String × Row)

namespace Database

/-- The rows of a table. -/
def rows (db : Database) (table : String) : List Row := (db.lookup table).getD []

/-- The row of a table that a record makes. -/
def rowOf (columns : List (String × ColumnType)) (record : Value) : Row :=
  columns.map fun c => (c.1, (Datum.ofValueOrNull (record.field c.1)).stored c.2)

/-- The key of a row, which is in its first column. -/
def keyOf (row : Row) : Datum := (row.head?.map Prod.snd).getD .null

/-- The number of a row, if its key is one. -/
def numberOf? (row : Row) : Option Int :=
  match keyOf row with
  | .integer i => some i
  | _ => none

/-- Numbers a row without a key behind the others, where keys are integers. -/
def numbered (columns : List (String × ColumnType)) (rows : List Row) : Row → Row
  | (name, .null) :: rest =>
    if columns.head?.map Prod.snd == some .int then
      (name, .integer (((rows.filterMap numberOf?).max?.map (· + 1)).getD 1)) :: rest
    else (name, .null) :: rest
  | row => row

/-- Puts a row behind others, none of which may have its key. -/
def addRow (columns : List (String × ColumnType)) (row : Row) (rows : List Row) :
    Result (List Row) := do
  let row := numbered columns rows row
  if keyOf row == .null || rows.any fun other => (keyOf other).isSame (keyOf row) then
    throw .keyViolation
  return rows ++ [row]

/-- Puts a row into a table. -/
def insertRow (table : String) (columns : List (String × ColumnType)) (row : Row) :
    Database → Result Database
  | [] => do return [(table, ← addRow columns row [])]
  | (name, rows) :: rest => do
    if name = table then return (name, ← addRow columns row rows) :: rest
    return (name, rows) :: (← insertRow table columns row rest)

/-- Puts records into a table, up to the first that it does not take. -/
def insert (db : Database) (table : String) (columns : List (String × ColumnType))
    (records : List Value) : Result Database :=
  records.foldlM (fun db record => insertRow table columns (rowOf columns record) db) db

/-- All combinations of rows of some tables. -/
def frames (db : Database) : List String → List Frame
  | [] => [[]]
  | table :: rest => (db.rows table).flatMap fun row => (db.frames rest).map ((table, row) :: ·)

end Database

/-- The datum of a column, in the innermost selection that names its table. -/
def readColumn (frames : List Frame) (c : Column) : Datum :=
  let row? := match c.table with
    | some table => frames.findSome? fun (f : Frame) => f.lookup table
    | none => (frames.flatten.map Prod.snd).find? fun (r : Row) => (r.lookup c.name).isSome
  ((row?.bind fun r => r.lookup c.name)).getD .null

/-- The order of a column and what it is compared with, adjusted to their types. -/
def orderOf (frames : List Frame) (c : Column) (right : Term) : Option Ordering :=
  let (x, y) := match right with
    | .column d => Datum.fit c.type d.type (readColumn frames c) (readColumn frames d)
    | .value v => Datum.fit c.type none (readColumn frames c) (.ofValueOrNull v)
  x.compare? y

/-- Whether an order is the one of a sign. -/
def OrderOp.admits : OrderOp → Ordering → Bool
  | gt, o => o == .gt
  | lt, o => o == .lt
  | gte, o => o != .lt
  | lte, o => o != .gt

/-- Whether two columns hold the same, null included. -/
def sameColumns (frames : List Frame) (a b : Column) : Bool :=
  let (x, y) := Datum.fit a.type b.type (readColumn frames a) (readColumn frames b)
  x.isSame y

/-- Whether a column is one of some constants; an equal one decides. -/
def isOneOf (frames : List Frame) (c : Column) : List Scalar → Option Bool
  | [] => some false
  | s :: rest =>
    or3 ((orderOf frames c (.value (.scalar s))).map (· == .eq)) (isOneOf frames c rest)

/-- The pattern around a text. -/
def affixPattern (test : TextTest) (text : String) : String :=
  match test with
  | .startsWith => escapeLike text ++ "%"
  | .endsWith => "%" ++ escapeLike text
  | .contains => "%" ++ escapeLike text ++ "%"

variable [CharacterNames]

/-- Whether a pattern is found in a datum; missing for null, and where there is no answer. -/
def regexpHolds (pattern : String) : Datum → Option Bool
  | .text s =>
    match Pattern.compile pattern .none with
    | .ok program => some (program.search s)
    | .error _ => none
  | _ => none

/-- Whether the search for a pattern in a datum fails: the pattern cannot be read, or the datum is
    no text.  Null is not searched. -/
def regexpFails (pattern : String) : Datum → Bool
  | .null => false
  | .text _ =>
    match Pattern.compile pattern .none with
    | .ok _ => false
    | .error _ => true
  | _ => true

/-- The truth of a test of columns; other clauses are none of its business. -/
def testTruth (frames : List Frame) : Clause → Option Bool
  | .truth b | .wrapped b => some b
  | .isNull c => some (readColumn frames c == .null)
  | .isNotNull c => some (readColumn frames c != .null)
  | .same a b => some (sameColumns frames a b)
  | .distinct a b => some (!sameColumns frames a b)
  | .equalsBool c b => (orderOf frames c (.value (.bool b))).map (· == .eq)
  | .equals c v => (orderOf frames c (.value v)).map (· == .eq)
  | .order op c right => (orderOf frames c right).map op.admits
  | .oneOf c values => isOneOf frames c values
  | .affix test c text =>
    Datum.isLike '/' (some (affixPattern test text)) (readColumn frames c).likeText?
  | .like c pattern => Datum.isLike '\\' (some pattern) (readColumn frames c).likeText?
  | .likeLower c pattern =>
    Datum.isLike '\\' (some (Datum.lowered pattern))
      ((readColumn frames c).likeText?.map Datum.lowered)
  | .regexp c pattern => regexpHolds pattern (readColumn frames c)
  | _ => none

/-- The tables that the innermost selection names. -/
def namedTables (frames : List Frame) : Option (List String) :=
  frames.head?.map fun f => f.map Prod.fst

namespace Clause

mutual

/-- The truth value of a clause on rows. -/
def truthValue (db : Database) (frames : List Frame) : Clause → Option Bool
  | .not x => not3 (x.truthValue db frames)
  | .and xs => allTrue db frames xs
  | .or xs => someTrue db frames xs
  | .exists table p =>
    some ((db.frames (visibleTables (namedTables frames) [table] p)).any fun f =>
      p.truthValue db (f :: frames) == some true)
  | .count table p atLeast n =>
    let found := (db.frames (visibleTables (namedTables frames) [table] p)).countP fun f =>
      p.truthValue db (f :: frames) == some true
    some (if atLeast then n ≤ found else found < n)
  | c => testTruth frames c

/-- The truth value of a conjunction. -/
def allTrue (db : Database) (frames : List Frame) : List Clause → Option Bool
  | [] => some true
  | c :: rest => and3 (c.truthValue db frames) (allTrue db frames rest)

/-- The truth value of a disjunction. -/
def someTrue (db : Database) (frames : List Frame) : List Clause → Option Bool
  | [] => some false
  | c :: rest => or3 (c.truthValue db frames) (someTrue db frames rest)

end

/-- Whether something fails before one decides, of things that are looked at in their order. -/
def failsUntil {α : Type} (fails decides : α → Bool) : List α → Bool
  | [] => false
  | a :: rest => fails a || (!decides a && failsUntil fails decides rest)

mutual

/-- Whether looking for the truth value of a clause fails.  Its parts are looked at from left to
    right, up to one that decides; an inner selection counts all rows, or looks for the first. -/
def fails (db : Database) (frames : List Frame) : Clause → Bool
  | .not x => x.fails db frames
  | .and xs => failsBefore false db frames xs
  | .or xs => failsBefore true db frames xs
  | .exists table p =>
    failsUntil (fun f => p.fails db (f :: frames))
      (fun f => p.truthValue db (f :: frames) == some true)
      (db.frames (visibleTables (namedTables frames) [table] p))
  | .count table p _ _ =>
    (db.frames (visibleTables (namedTables frames) [table] p)).any fun f =>
      p.fails db (f :: frames)
  | .regexp c pattern => regexpFails pattern (readColumn frames c)
  | _ => false

/-- Whether one of some clauses fails before one has a truth value. -/
def failsBefore (value : Bool) (db : Database) (frames : List Frame) : List Clause → Bool
  | [] => false
  | c :: rest =>
    c.fails db frames ||
      (c.truthValue db frames != some value && failsBefore value db frames rest)

end

end Clause

namespace Selection

/-- The data that a selection gives, row by row. -/
def rows (s : Selection) (db : Database) : List (List Datum) :=
  (db.frames s.tables).filterMap fun f =>
    if s.condition.truthValue db [f] == some true then some (s.columns.map (readColumn [f]))
    else none

/-- Binds the values in a piece; a list of values is bound one by one. -/
def bindPiece : Piece → Result Unit
  | .bound _ v => do discard (Datum.ofValue v)
  | .boundList _ vs => vs.forM fun s => do discard (Datum.ofScalar s)
  | _ => .ok ()

/-- Whether looking at some row fails. -/
def fails (s : Selection) (db : Database) : Bool :=
  (db.frames s.tables).any fun f => s.condition.fails db [f]

/-- Runs a selection: it is written down, its values are bound, and then rows are looked
    at. -/
def run (s : Selection) (db : Database) : Result (List (List Datum)) := do
  let pieces ← s.pieces .sqlite
  pieces.forM bindPiece
  if s.fails db then throw .databaseFailure
  return s.rows db

end Selection

end Clearance.Sql
