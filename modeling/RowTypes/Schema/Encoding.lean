import RowTypes.Json.Printer
import RowTypes.Schema.Basic

/-!
Written schemas: tables, columns and vendor facts as JSON. What is missing or empty is left out
where a reader fills it in anyway.
-/

namespace RowTypes

open Json (str int ofMembers)

/-- The member `key: value`, or nothing. -/
def optionalMember (key : String) : Option Json → List (String × Json)
  | some value => [(key, value)]
  | none => []

namespace Reference

def members (ref : Reference) : List (String × Json) :=
  [("name", str ref.table), ("schema", str ref.schema), ("column", str ref.column)]

end Reference

namespace Column

/-- The members of a column, without what its database system says about it. -/
def members (column : Column) : List (String × Json) :=
  [("name", str column.name), ("data_type", str column.dataType.name),
    ("internal_type", str column.nativeType), ("primary_key", .bool column.primaryKey),
    ("foreign_key", .bool column.foreignKey)] ++
  optionalMember "foreign_key_column"
    (if column.target.isEmpty then none else some (ofMembers column.target.members)) ++
  [("can_be_null", .bool column.nullable)] ++
  optionalMember "default_value" (column.defaultValue.map str) ++
  optionalMember "comment" (column.comment.map str)

def toJson (column : Column) : Json :=
  ofMembers column.members

end Column

namespace VendorFacts

/-- The members of the facts of a known system; those of another system are not written. -/
def members? : VendorFacts → Option (List (String × Json))
  | postgres facts => some <|
    [("engine", str "postgres")] ++
    optionalMember "identity" (facts.identity.map str) ++
    [("sequence_default", .bool facts.sequenceDefault), ("udt_name", str facts.udtName)] ++
    optionalMember "character_max_length" (facts.characterMaxLength.map fun n => int n.toInt) ++
    optionalMember "numeric_precision" (facts.numericPrecision.map fun n => int n.toInt) ++
    optionalMember "numeric_scale" (facts.numericScale.map fun n => int n.toInt)
  | mariadb facts => some
    [("engine", str "mariadb"), ("auto_increment", .bool facts.autoIncrement),
      ("data_type_length", int facts.dataTypeLength.toInt),
      ("key_type", str facts.keyType.name)]
  | other _ => none

end VendorFacts

namespace Column

/-- A column that shares its object with what its database system says about it. -/
def toSharedJson (column : Column) : Json :=
  ofMembers (column.members ++
    optionalMember "vendor" ((column.vendor.bind VendorFacts.members?).map ofMembers))

end Column

namespace Table

/-- A table whose columns are written in some way. -/
def toJsonWith (writeColumn : Column → Json) (table : Table) : Json :=
  ofMembers [("name", str table.name), ("schema", str table.schema),
    ("columns", .array (table.columns.map writeColumn))]

/-- A table without what the database system says about its columns. -/
def toJson (table : Table) : Json :=
  table.toJsonWith Column.toJson

end Table

end RowTypes
