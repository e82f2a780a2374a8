/-
  The tables and columns that paths may name.

  A schema lists tables with their columns; a table whose columns cannot be told admits any
  column.  Without a schema every path is admitted.

  * `SchemaSource` is what a schema is derived from: data that maps tables to columns, or
    declared types of tables; `SchemaSource.schema?` derives it;
  * `checkTable` and `checkColumn` admit a name or say which names are known.
-/
import Clearance.Error.Basic

namespace Clearance

/-- Tables with their columns, as far as these are known. -/
abbrev Schema := List (String × Option (List String))

/-- The declared type of a table. -/
inductive TableType where
  /-- A record with columns. -/
  | record (columns : List String)
  /-- A sequence of records with columns. -/
  | sequence (columns : List String)
  /-- A type that tells nothing about columns. -/
  | other
  /-- A type referred to by name. -/
  | named (name : String)
deriving DecidableEq, Repr

/-- What a schema is derived from. -/
inductive SchemaSource where
  /-- Data: a dictionary from tables to columns, or nothing at all. -/
  | data (v : Value)
  /-- A declaration with the types of the tables. -/
  | declaration (name : String) (tables : List (String × TableType))

/-! ## Derivation -/

/-- The types that can be referred to by name. -/
def knownTypeNames : List String :=
  ["int", "str", "float", "bool", "bytes", "list", "tuple", "set", "dict", "frozenset", "object",
   "complex", "type", "None"]

/-- The columns that a type tells, if any. -/
def TableType.columns? : TableType → Option (List String)
  | record columns | sequence columns => if columns.isEmpty then none else some columns
  | other | named _ => none

/-- Whether a type refers to a name that is not known. -/
def TableType.isUnknown : TableType → Bool
  | named name => !knownTypeNames.contains name
  | _ => false

mutual

/-- The first part of a value that bars it from being a member of a set. -/
def Value.unhashable? : Value → Option Value
  | .tuple items => firstUnhashable? items
  | .scalar _ => none
  | .bytes _ => none
  | v => some v

/-- The first part of some values that bars them from being members of a set. -/
def firstUnhashable? : List Value → Option Value
  | [] => none
  | v :: rest => v.unhashable?.or (firstUnhashable? rest)

end

/-- The items that a value runs through: the characters of a text, the items of a sequence,
    the keys of a dictionary. -/
def Value.iterated? : Value → Option (List Value)
  | .str s => some (s.toList.map fun c => .str (String.ofList [c]))
  | .list items | .tuple items | .set items => some items
  | .dict fields => some (fields.map fun f => .str f.1)
  | .bytes bs => some (bs.map fun b => .int b.toNat)
  | _ => none

/-- The column names that a value lists. -/
def Value.columnNames (v : Value) : Result (List String) :=
  match v.iterated? with
  | none => .error (.notIterable v.qualifiedTypeName)
  | some items =>
    match firstUnhashable? items with
    | some item => .error (.unhashable item.typeName)
    | none => .ok (items.filterMap Value.text?)

/-- The schema of a source; none if nothing is to be checked. -/
def SchemaSource.schema? : SchemaSource → Result (Option Schema)
  | data .null => .ok none
  | data (.dict tables) => do
    return some (← tables.mapM fun t => do return (t.1, some (← t.2.columnNames)))
  | data v => .error (.underivableSchema v.display)
  | declaration name tables =>
    if tables.any fun t => t.2.isUnknown then
      .error (.underivableSchema ("<class 'schema." ++ name ++ "'>"))
    else .ok (some (tables.map fun t => (t.1, t.2.columns?)))

/-! ## Checks -/

/-- Admits a table that a schema knows. -/
def checkTable (schema : Option Schema) (table : String) : Result Unit :=
  match schema with
  | none => .ok ()
  | some tables =>
    if (tables.lookup table).isSome then .ok ()
    else .error (.unknownTable table (sortedNames (tables.map Prod.fst)))

/-- Admits a column that a schema does not exclude. -/
def checkColumn (schema : Option Schema) (table column : String) : Result Unit :=
  match schema.bind fun tables => (tables.lookup table).bind id with
  | none => .ok ()
  | some columns =>
    if columns.contains column then .ok ()
    else .error (.unknownColumn table column (sortedNames columns))

end Clearance
