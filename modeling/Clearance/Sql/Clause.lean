/-
  Conditions on the rows of tables.

  A `Clause` is a truth value, a test of columns, or a combination of clauses; `Clause.exists`
  and `Clause.count` look at the rows of a table that satisfy a clause of their own.  A truth
  value that was left over when clauses were joined is `wrapped`: it is not simplified away
  again.

  * `Clause.conj` and `Clause.disj` join clauses: truth values that do not matter are dropped,
    one that decides displaces all others, and joins of the same sort become one;
  * `Clause.negate` negates a clause, by turning its test round where it has a counterpart;
  * `Clause.tables` are the tables of the columns of a clause, those of inner selections apart,
    and `visibleTables` the tables that a selection names.
-/
import Clearance.Rule.Basic

namespace Clearance.Sql

/-- The type of a column. -/
inductive ColumnType where
  | int | str | bool | float
deriving DecidableEq, Repr

/-- Whether a type is one of numbers; truth values are stored as zero and one. -/
def ColumnType.isNumeric : ColumnType → Bool
  | str => false
  | _ => true

/-- A column.  One that is bound to no table has no type either. -/
structure Column where
  name : String
  /-- The table of the column. -/
  table : Option String
  type : Option ColumnType
deriving DecidableEq, Repr

/-- The orderings. -/
inductive OrderOp where
  | gt | lt | gte | lte
deriving DecidableEq, Repr

/-- What a column is ordered against. -/
inductive Term where
  | column (c : Column)
  | value (v : Value)

/-- A condition. -/
inductive Clause where
  | truth (value : Bool)
  | wrapped (value : Bool)
  | isNull (c : Column)
  | isNotNull (c : Column)
  /-- Two columns hold the same, null included. -/
  | same (a b : Column)
  /-- Two columns do not hold the same. -/
  | distinct (a b : Column)
  | equalsBool (c : Column) (value : Bool)
  | equals (c : Column) (v : Value)
  | order (op : OrderOp) (c : Column) (right : Term)
  | oneOf (c : Column) (values : List Scalar)
  /-- A column begins with, ends with or contains a text. -/
  | affix (test : TextTest) (c : Column) (text : String)
  | like (c : Column) (pattern : String)
  /-- As `like`, with letters in lower case. -/
  | likeLower (c : Column) (pattern : String)
  | regexp (c : Column) (pattern : String)
  | not (x : Clause)
  | and (xs : List Clause)
  | or (xs : List Clause)
  /-- Some row of a table satisfies a clause. -/
  | exists (table : String) (p : Clause)
  /-- At least, or fewer than, some number of rows of a table satisfy a clause. -/
  | count (table : String) (p : Clause) (atLeast : Bool) (n : Nat)

namespace Clause

/-! ## Joining -/

/-- Drops the truth values that do not matter, up to one that decides; `none` if there is
    one. -/
def undecided (neutral : Bool) : List Clause → Option (List Clause)
  | [] => some []
  | truth b :: rest => if b = neutral then undecided neutral rest else none
  | c :: rest => (undecided neutral rest).map (c :: ·)

/-- The parts of a conjunction. -/
def conjuncts : Clause → List Clause
  | and xs => xs
  | c => [c]

/-- The parts of a disjunction. -/
def disjuncts : Clause → List Clause
  | or xs => xs
  | c => [c]

/-- All of some clauses hold. -/
def conj (cs : List Clause) : Clause :=
  match undecided true cs with
  | none => wrapped false
  | some [] => wrapped true
  | some [c] => c
  | some cs => and (cs.flatMap conjuncts)

/-- Some of some clauses hold. -/
def disj (cs : List Clause) : Clause :=
  match undecided false cs with
  | none => wrapped true
  | some [] => wrapped false
  | some [c] => c
  | some cs => or (cs.flatMap disjuncts)

/-- The negation of a clause. -/
def negate : Clause → Clause
  | truth b | wrapped b => truth !b
  | isNull c => isNotNull c
  | isNotNull c => isNull c
  | same a b => distinct a b
  | distinct a b => same a b
  | count table p atLeast n => count table p (!atLeast) n
  | c => not c

/-! ## Tables -/

mutual

/-- The columns of a clause, in the order in which they appear; not those of inner
    selections. -/
def columns : Clause → List Column
  | truth _ | wrapped _ | .exists _ _ | count _ _ _ _ => []
  | isNull c | isNotNull c | equalsBool c _ | equals c _ | oneOf c _ | affix _ c _ | like c _
  | likeLower c _ | regexp c _ => [c]
  | same a b | distinct a b => [a, b]
  | order _ c right =>
    match right with
    | .column d => [c, d]
    | .value _ => [c]
  | not x => x.columns
  | and xs | or xs => columnsAll xs

/-- The columns of some clauses. -/
def columnsAll : List Clause → List Column
  | [] => []
  | c :: rest => c.columns ++ columnsAll rest

end

/-- The tables of the columns of a clause. -/
def tables (c : Clause) : List String := c.columns.filterMap Column.table

end Clause

/-- Texts in their order, each once. -/
def distinctNames (names : List String) : List String :=
  names.foldl (fun seen name => if seen.contains name then seen else seen ++ [name]) []

/-- The tables that a selection names: its own, then those of its condition.  Inside another
    selection, one that has several leaves out the tables that the other names. -/
def visibleTables (outer : Option (List String)) (own : List String) (p : Clause) :
    List String :=
  let all := distinctNames (own ++ p.tables)
  match outer with
  | none => all
  | some named => if all.length > 1 then all.filter (!named.contains ·) else all

/-- A selection of columns from the rows that satisfy a condition. -/
structure Selection where
  columns : List Column
  condition : Clause

/-- The tables that a selection names. -/
def Selection.tables (s : Selection) : List String :=
  visibleTables none (s.columns.filterMap Column.table) s.condition

end Clearance.Sql
