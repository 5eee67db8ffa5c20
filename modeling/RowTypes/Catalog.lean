import RowTypes.Config

/-!
A catalog is all that rendering may look at: the options and the whole table set. It is complete
before anything is rendered and never changes.
-/

namespace RowTypes

/-- The options and all loaded tables. -/
structure Catalog where
  config : Config
  tables : List Table

namespace Catalog

def options (cat : Catalog) (table : Table) : TableOptions :=
  cat.config.resolve table

/-- The first table with this schema and this name. -/
def find? (cat : Catalog) (schema name : String) : Option Table :=
  cat.tables.find? fun table => table.isNamed schema name

def typeName (cat : Catalog) (table : Table) : String :=
  Naming.typeName table.name (cat.options table).suffix

end Catalog

end RowTypes
