/-
  The text of clauses and selections.

  A text is written as a list of pieces, in which bound values and labels stand as such.
  They are named at the end: a name is a base, for a bound value most often that of the
  column it is compared with, and a number, counted for each base in the order of the text.

  * `Clause.pieces` and `Selection.pieces` write a clause and a selection;
  * `Statement` is a finished text with its bound values, `Clause.statement` and
    `Selection.statement` give it.
-/
import Clearance.Sql.Clause
import Clearance.Error.Basic

namespace Clearance.Sql

/-- A way of writing. -/
inductive Dialect where
  /-- Named bound values, and truth values by name. -/
  | named
  /-- Question marks for bound values, and numbers for truth values. -/
  | sqlite
deriving DecidableEq, Repr

/-- A piece of a text. -/
inductive Piece where
  | text (s : String)
  | bound (base : String) (v : Value)
  /-- A list of values that is bound as a whole. -/
  | boundList (base : String) (vs : List Scalar)
  | label (base : String)

/-! ## Pieces -/

/-- The text of a column. -/
def Column.text (c : Column) : String :=
  match c.table with
  | some t => t ++ "." ++ c.name
  | none => c.name

/-- The sign of an ordering. -/
def OrderOp.sign : OrderOp → String
  | gt => ">"
  | lt => "<"
  | gte => ">="
  | lte => "<="

/-- The text of a truth value. -/
def truthText : Dialect → Bool → String
  | .named, b => if b then "true" else "false"
  | .sqlite, b => if b then "1" else "0"

/-- The text of a truth value that stands as a condition. -/
def conditionText : Dialect → Bool → String
  | .named, b => if b then "true" else "false"
  | .sqlite, b => if b then "1 = 1" else "0 = 1"

/-- The text of the comparison of two columns, null included. -/
def sameText : Dialect → Bool → String
  | .named, b => if b then " IS NOT DISTINCT FROM " else " IS DISTINCT FROM "
  | .sqlite, b => if b then " IS " else " IS NOT "

/-- Escapes what has a meaning in a `LIKE` pattern. -/
def escapeLike (s : String) : String :=
  String.ofList (s.toList.flatMap fun c =>
    if c = '/' || c = '%' || c = '_' then ['/', c] else [c])

/-- The pattern of a test against a text. -/
def affixPieces (test : TextTest) (c : Column) (text : String) : List Piece :=
  let value := Piece.bound c.name (.str (escapeLike text))
  let pattern := match test with
    | .startsWith => [value, .text " || '%'"]
    | .endsWith => [.text "'%' || ", value]
    | .contains => [.text "'%' || ", value, .text " || '%'"]
  [.text ("(" ++ c.text ++ " LIKE ")] ++ pattern ++ [.text " ESCAPE '/')"]

/-- Pieces in parentheses. -/
def parenthesized (pieces : List Piece) : List Piece := [.text "("] ++ pieces ++ [.text ")"]

/-- Lists of pieces with a text between them. -/
def joinPieces (separator : String) : List (List Piece) → List Piece
  | [] => []
  | [only] => only
  | first :: rest => first ++ .text separator :: joinPieces separator rest

/-- The tables and the condition of a selection. -/
def fromWhere (tables : List String) (condition : List Piece) : List Piece :=
  [.text (" \nFROM " ++ ", ".intercalate tables ++ " \nWHERE ")] ++ condition

/-- Whether a clause stands in parentheses inside a conjunction. -/
def Clause.isWeak : Clause → Bool
  | .or _ | .exists _ _ => true
  | _ => false

/-- Whether a clause is an inner selection. -/
def Clause.isSelection : Clause → Bool
  | .exists _ _ => true
  | _ => false

namespace Clause

/-- A clause as the condition of a selection, given how it is written elsewhere. -/
def conditionPieces (d : Dialect) (written : Result (List Piece)) : Clause → Result (List Piece)
  | truth b => .ok [.text (conditionText d b)]
  | _ => written

mutual

/-- Writes a clause, given the tables that the selection around it names. -/
def pieces (d : Dialect) (outer : Option (List String)) : Clause → Result (List Piece)
  | truth b => .ok [.text (truthText d b)]
  | wrapped b => .ok [.text (conditionText d b)]
  | isNull c => .ok [.text (c.text ++ " IS NULL")]
  | isNotNull c => .ok [.text (c.text ++ " IS NOT NULL")]
  | same a b => .ok [.text (a.text ++ sameText d true ++ b.text)]
  | distinct a b => .ok [.text (a.text ++ sameText d false ++ b.text)]
  | equalsBool c b => .ok [.text (c.text ++ " = " ++ truthText d b)]
  | equals c v => .ok [.text (c.text ++ " = "), .bound c.name v]
  | order op c right =>
    let sign := " " ++ op.sign ++ " "
    match right with
    | .column d => .ok [.text (c.text ++ sign ++ d.text)]
    | .value v => .ok [.text (c.text ++ sign), .bound "param" v]
  | oneOf c values => .ok [.text (c.text ++ " IN ("), .boundList c.name values, .text ")"]
  | affix test c text => .ok (affixPieces test c text)
  | like c pattern =>
    .ok [.text (c.text ++ " LIKE "), .bound c.name (.str pattern), .text " ESCAPE '\\'"]
  | likeLower c pattern =>
    .ok [.text ("lower(" ++ c.text ++ ") LIKE lower("), .bound c.name (.str pattern),
      .text ") ESCAPE '\\'"]
  | regexp c pattern =>
    let sign := match d with
      | .named => " <regexp> "
      | .sqlite => " REGEXP "
    .ok [.text (c.text ++ sign), .bound c.name (.str pattern)]
  | not x => do
    return [.text "NOT ("] ++ (← x.pieces d outer) ++ [.text ")"]
  | and xs => do return joinPieces " AND " (← piecesAll d outer isWeak xs)
  | or xs => do return joinPieces " OR " (← piecesAll d outer isSelection xs)
  | .exists table p => do
    let tables := visibleTables outer [table] p
    if tables.isEmpty then throw .statementWithoutTables
    let condition ← p.conditionPieces d (p.pieces d (some tables))
    return [.text "EXISTS (SELECT ", .bound "param" (.int 1), .text " AS ", .label "anon"] ++
      fromWhere tables condition ++ [.text ")"]
  | count table p atLeast n => do
    let tables := visibleTables outer [table] p
    if tables.isEmpty then throw .statementWithoutTables
    let condition ← p.conditionPieces d (p.pieces d (some tables))
    return [.text "(SELECT count(*) AS ", .label "count"] ++ fromWhere tables condition ++
      [.text (if atLeast then ") >= " else ") < "), .bound "param" (.int n)]

/-- Writes clauses, some of them in parentheses. -/
def piecesAll (d : Dialect) (outer : Option (List String)) (isLoose : Clause → Bool) :
    List Clause → Result (List (List Piece))
  | [] => .ok []
  | c :: rest => do
    let ps ← c.pieces d outer
    return (if isLoose c then parenthesized ps else ps) :: (← piecesAll d outer isLoose rest)

end

end Clause

/-- Writes the columns of a selection; a name that was taken by an earlier column gets a
    label. -/
def columnPieces (seen : List String) : List Column → List (List Piece)
  | [] => []
  | c :: rest =>
    (if seen.contains c.name then [.text (c.text ++ " AS "), .label c.name]
      else [.text c.text]) :: columnPieces (c.name :: seen) rest

/-- Writes a selection. -/
def Selection.pieces (d : Dialect) (s : Selection) : Result (List Piece) := do
  if s.tables.isEmpty then throw .statementWithoutTables
  let condition ← s.condition.conditionPieces d (s.condition.pieces d (some s.tables))
  return .text "SELECT " :: joinPieces ", " (columnPieces [] s.columns) ++
    fromWhere s.tables condition

/-! ## Names -/

/-- The numbers given out so far, for each base. -/
abbrev Numbering := List (String × Nat)

/-- The next name on a base. -/
def Numbering.next (n : Numbering) (base : String) : String × Numbering :=
  let k := (n.lookup base).getD 0 + 1
  (base ++ "_" ++ toString k, (base, k) :: n)

/-- A finished text. -/
structure Statement where
  text : String
  /-- The bound values with their names, in the order of the text. -/
  bound : List (String × Value)

/-- Names the bound values and labels of a text. -/
def finish (d : Dialect) : Numbering → List Piece → Statement
  | _, [] => ⟨"", []⟩
  | n, .text s :: rest =>
    let r := finish d n rest
    ⟨s ++ r.text, r.bound⟩
  | n, .bound base v :: rest =>
    let (name, n) := n.next base
    let r := finish d n rest
    ⟨(match d with
      | .named => ":" ++ name
      | .sqlite => "?") ++ r.text, (name, v) :: r.bound⟩
  | n, .boundList base vs :: rest =>
    let (name, n) := n.next base
    let r := finish d n rest
    ⟨"__[POSTCOMPILE_" ++ name ++ "]" ++ r.text, (name, .list (vs.map .scalar)) :: r.bound⟩
  | n, .label base :: rest =>
    let (name, n) := n.next base
    let r := finish d n rest
    ⟨name ++ r.text, r.bound⟩

/-- The text of a clause that stands alone. -/
def Clause.statement (c : Clause) (d : Dialect) : Result Statement := do
  return finish d [] (← c.pieces d none)

/-- The text of a selection. -/
def Selection.statement (s : Selection) (d : Dialect) : Result Statement := do
  return finish d [] (← s.pieces d)

end Clearance.Sql
