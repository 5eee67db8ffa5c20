import RowTypes.Schema.Error
import RowTypes.Schema.NativeType

/-!
Rows: what a PostgreSQL server answers about columns and keys, and the columns that follow from it.
Any field of a row may be null; a required one that is null makes its query fail.
-/

namespace RowTypes

def requireField {α : Type} (field : String) : Option α → Except QueryFailure α
  | some value => .ok value
  | none => .error (.nullField field)

/-- A row about a column. -/
structure ColumnRow where
  name : Option String := none
  dataType : Option String := none
  udtName : Option String := none
  nullable : Option Bool := none
  default : Option String := none
  identity : Option String := none
  characterMaxLength : Option Int32 := none
  numericPrecision : Option Int32 := none
  numericScale : Option Int32 := none
  comment : Option String := none
  deriving DecidableEq, Repr, Inhabited

/-- What a server says about a column. -/
structure ColumnInfo where
  name : String
  /-- The type in the words of the information schema. -/
  dataType : String
  /-- The type by its name in the catalog. -/
  udtName : String
  nullable : Bool := false
  default : Option String := none
  identity : Option String := none
  characterMaxLength : Option Int32 := none
  numericPrecision : Option Int32 := none
  numericScale : Option Int32 := none
  comment : Option String := none
  deriving DecidableEq, Repr, Inhabited

/-- Read a row; the first required field that is null makes it fail. -/
def ColumnRow.read (row : ColumnRow) : Except QueryFailure ColumnInfo := do
  let name ← requireField "name" row.name
  let dataType ← requireField "data_type" row.dataType
  let udtName ← requireField "udt_name" row.udtName
  let nullable ← requireField "is_nullable" row.nullable
  return {
    name, dataType, udtName, nullable
    default := row.default
    identity := row.identity
    characterMaxLength := row.characterMaxLength
    numericPrecision := row.numericPrecision
    numericScale := row.numericScale
    comment := row.comment }

/-- A row about a column of a foreign key. -/
structure ForeignKeyRow where
  column : Option String := none
  schema : Option String := none
  table : Option String := none
  target : Option String := none
  deriving DecidableEq, Repr, Inhabited

/-- A column of a foreign key and what it refers to. -/
structure ForeignKeyInfo where
  column : String
  target : Reference
  deriving DecidableEq, Repr, Inhabited

/-- Read a row; the first field that is null makes it fail. -/
def ForeignKeyRow.read (row : ForeignKeyRow) : Except QueryFailure ForeignKeyInfo := do
  let column ← requireField "column_name" row.column
  let schema ← requireField "referenced_schema" row.schema
  let table ← requireField "referenced_table" row.table
  let target ← requireField "referenced_column" row.target
  return { column, target := { table, schema, column := target } }

namespace ColumnInfo

/-- How the default value of a column begins that is numbered by a sequence. -/
def sequenceCall : String :=
  "nextval("

/-- What PostgreSQL says about the column beyond the common facts. -/
def facts (info : ColumnInfo) : PostgresFacts :=
  { identity := info.identity
    sequenceDefault := info.default.any fun text => sequenceCall.toList.isPrefixOf text.toList
    udtName := info.udtName
    characterMaxLength := info.characterMaxLength
    numericPrecision := info.numericPrecision
    numericScale := info.numericScale }

/-- What a column refers to, by the first foreign key with it; nothing if there is none. -/
def target (info : ColumnInfo) (foreignKeys : List ForeignKeyInfo) : Reference :=
  match foreignKeys.find? fun key => key.column == info.name with
  | some key => key.target
  | none => {}

/-- The column that a server describes. An empty comment is none. -/
def toColumn (info : ColumnInfo) (primaryKeys : List String) (foreignKeys : List ForeignKeyInfo)
    (includeComments : Bool) : Column :=
  let target := info.target foreignKeys
  { name := info.name
    dataType := Engine.postgres.dataType info.udtName
    nativeType := info.dataType
    primaryKey := primaryKeys.contains info.name
    foreignKey := !target.column.isEmpty
    target
    nullable := info.nullable
    defaultValue := info.default
    comment := if includeComments then info.comment.filter (!·.isEmpty) else none
    vendor := some (.postgres info.facts) }

end ColumnInfo

end RowTypes
