import RowTypes.Schema.Basic

/-!
Consistent table sets: no two tables with one schema and name, no two columns of a table with one
name, and a foreign key flag exactly on the columns that refer to a column. `checkTables` finds the
first place, in reading order, where a set is not consistent.
-/

namespace RowTypes

/-- Where a table set is not consistent. -/
inductive Inconsistency where
  /-- A table with the schema and the name of an earlier one. -/
  | duplicateTable (table : String)
  /-- A column with the name of an earlier one of its table. -/
  | duplicateColumn (table column : String)
  /-- A foreign key flag that does not fit the reference. -/
  | keyFlag (table column : String)
  deriving DecidableEq, Repr

def Inconsistency.message : Inconsistency → String
  | duplicateTable table => "duplicate table name: " ++ table
  | duplicateColumn table column => "duplicate column name: " ++ table ++ "." ++ column
  | keyFlag table column =>
    "foreign key flag of " ++ table ++ "." ++ column ++ " disagrees with its referenced column"

/-- Check columns of `table` that follow columns with the names `seen`. -/
def checkColumns (table : String) (seen : List String) : List Column → Except Inconsistency Unit
  | [] => .ok ()
  | column :: rest =>
    if seen.contains column.name then .error (.duplicateColumn table column.name)
    else if column.foreignKey == column.target.column.isEmpty then
      .error (.keyFlag table column.name)
    else checkColumns table (column.name :: seen) rest

/-- Check tables that follow tables with the schemas and names `seen`. -/
def checkTablesAfter (seen : List (String × String)) : List Table → Except Inconsistency Unit
  | [] => .ok ()
  | table :: rest =>
    if seen.contains (table.schema, table.name) then
      .error (.duplicateTable table.qualifiedName)
    else
      match checkColumns table.qualifiedName [] table.columns with
      | .error e => .error e
      | .ok () => checkTablesAfter ((table.schema, table.name) :: seen) rest

/-- Check a table set; the error names the first inconsistency in reading order. -/
def checkTables (tables : List Table) : Except Inconsistency Unit :=
  checkTablesAfter [] tables

end RowTypes
