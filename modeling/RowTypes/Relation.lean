import RowTypes.Catalog
import RowTypes.Tag

/-!
Relations: the foreign keys of all loaded tables that refer to one table. Each becomes a field of
that table's struct which lists the referring rows.
-/

namespace RowTypes

/-- A field that lists the rows whose foreign key refers to the owner. -/
structure RelationField where
  /-- The name of the field, which is that of the referring table. -/
  fieldName : String
  /-- The type of a referring row. -/
  typeName : String
  /-- `schema.table.column` of the foreign key, the schema optional. -/
  reference : String
  deriving DecidableEq, Repr, Inhabited

namespace RelationField

def listType (field : RelationField) : String :=
  "[]*" ++ field.typeName

def tag (field : RelationField) : ColumnTag :=
  .pointed field.reference

end RelationField

/-- `schema.table.column`, or `table.column` in the empty schema. -/
def qualifyColumn (schema table column : String) : String :=
  qualify schema table ++ "." ++ column

def ColumnTag.ofColumn (column : Column) : ColumnTag :=
  { name := column.name
    isPrimaryKey := column.primaryKey
    foreignKey :=
      if column.foreignKey then
        qualifyColumn column.target.schema column.target.table column.target.column
      else ""
    autoIncrement := column.autoIncrement }

namespace Catalog

/-- The fields for the foreign keys of `source` that refer to `target`. -/
def relationsFrom (cat : Catalog) (target source : Table) : List RelationField :=
  (source.columns.filter fun column => column.refersTo target.schema target.name).map fun column =>
    { fieldName := Naming.fieldName source.name
      typeName := cat.typeName source
      reference := qualifyColumn source.schema source.name column.name }

/-- The fields for all foreign keys that refer to `target`, in the order of the tables and of their
columns; none unless the options of `target` ask for them. -/
def relations (cat : Catalog) (target : Table) : List RelationField :=
  if (cat.options target).includePointed then cat.tables.flatMap (cat.relationsFrom target) else []

end Catalog

end RowTypes
