import RowTypes.Catalog
import RowTypes.Issue

/-!
Field types: the type of the field that holds the value of a column. Most types follow from the data
type of the column; a foreign key may instead become a pointer to the struct of its target.
-/

namespace RowTypes

/-- The type of a field, and the package it needs. -/
structure FieldType where
  name : String
  dependency : Option String := none
  deriving DecidableEq, Repr, Inhabited

namespace FieldType

/-- The package of the types that may be null. -/
def sqlPackage : String := "database/sql"

def timePackage : String := "time"

/-- The type of values of which nothing is known. -/
def anyName : String := "any"

/-- The type of a value, by its data type and by whether it may be null. -/
def scalar : DataType → Bool → FieldType
  | .string, true => ⟨"sql.NullString", some sqlPackage⟩
  | .integer, true => ⟨"sql.NullInt64", some sqlPackage⟩
  | .double, true => ⟨"sql.NullFloat64", some sqlPackage⟩
  | .date, true => ⟨"sql.NullTime", some sqlPackage⟩
  | .string, false => ⟨"string", none⟩
  | .integer, false => ⟨"int", none⟩
  | .double, false => ⟨"float64", none⟩
  | .date, false => ⟨"time.Time", some timePackage⟩
  | .geo, _ => ⟨anyName, none⟩
  | .unknown, _ => ⟨anyName, none⟩

def pointer (typeName : String) : FieldType :=
  ⟨"*" ++ typeName, none⟩

end FieldType

/-- A column that has to point to a table that is not loaded. -/
structure MissingTarget where
  table : String
  column : String
  target : String
  deriving DecidableEq, Repr

namespace MissingTarget

def message (e : MissingTarget) : String :=
  "column " ++ e.table ++ "." ++ e.column ++ " references " ++ e.target ++
    ", which is not part of the loaded tables"

end MissingTarget

namespace Catalog

/-- Whether a column is a foreign key that the options turn into a pointer. -/
def wantsPointer (options : TableOptions) (column : Column) : Bool :=
  column.foreignKey && options.inclusion.includes column.name

/-- The type of the field of a column, and what there is to note about it. A pointer whose target is
not loaded fails under the strict policy and falls back to the scalar type under the lenient one. -/
def fieldType (cat : Catalog) (table : Table) (column : Column) :
    Except MissingTarget (FieldType × List Issue) :=
  let scalar := FieldType.scalar column.dataType column.nullable
  if wantsPointer (cat.options table) column then
    match cat.find? column.target.schema column.target.table with
    | some target => .ok (FieldType.pointer (cat.typeName target), [])
    | none =>
      let target := column.target.schema ++ "." ++ column.target.table
      match cat.config.policy with
      | .strict => .error ⟨table.qualifiedName, column.name, target⟩
      | .lenient => .ok (scalar, [Issue.missingTarget table column.name target])
  else .ok (scalar, [])

end Catalog

end RowTypes
