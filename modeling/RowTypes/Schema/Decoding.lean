import RowTypes.Json.Record
import RowTypes.Schema.Basic

/-!
Reading written schemas. Columns are read in two ways that differ in what they put up with: a column
that stands alone is a record like any other, while a column that shares its object with vendor
facts has to be an object all of whose members can be read, known or not.
-/

namespace RowTypes

open Json

/-- The data type of a column that stands alone: its name, or an object `name: null`. -/
def DataType.read? : Json → Option DataType
  | .text (some name) => ofName? name
  | .object [(some name, .null)] => ofName? name
  | _ => none

/-- The data type of a column in a shared object: here `name: {}` is accepted as well. -/
def DataType.readShared? : Json → Option DataType
  | .object [(some name, .object [])] => ofName? name
  | j => DataType.read? j

/-- A reference, whose table and column have to be there. -/
def Reference.read? (j : Json) : Option Reference := do
  let fields ← record? ["name", "schema", "column"] j
  return {
    table := ← fields.required "name" asString?
    schema := ← fields.optional "schema" "" asString?
    column := ← fields.required "column" asString? }

namespace Column

def fieldNames : List String :=
  ["name", "data_type", "internal_type", "primary_key", "foreign_key", "foreign_key_column",
    "can_be_null", "default_value", "comment"]

def ofRecord? (readDataType : Json → Option DataType) (fields : Record) : Option Column := do
  return {
    name := ← fields.required "name" asString?
    dataType := ← fields.optional "data_type" .unknown readDataType
    nativeType := ← fields.optional "internal_type" "" asString?
    primaryKey := ← fields.optional "primary_key" false asBool?
    foreignKey := ← fields.optional "foreign_key" false asBool?
    target := ← fields.optional "foreign_key_column" {} Reference.read?
    nullable := ← fields.optional "can_be_null" false asBool?
    defaultValue := ← fields.optional "default_value" none (orNull? asString?)
    comment := ← fields.optional "comment" none (orNull? asString?) }

/-- A column that stands alone. -/
def read? (j : Json) : Option Column :=
  (record? fieldNames j).bind (ofRecord? DataType.read?)

end Column

namespace VendorFacts

def readPostgres? (j : Json) : Option PostgresFacts := do
  let fields ← record? ["identity", "sequence_default", "udt_name", "character_max_length",
    "numeric_precision", "numeric_scale"] j
  return {
    identity := ← fields.optional "identity" none (orNull? asString?)
    sequenceDefault := ← fields.optional "sequence_default" false asBool?
    udtName := ← fields.optional "udt_name" "" asString?
    characterMaxLength := ← fields.optional "character_max_length" none (orNull? asInt32?)
    numericPrecision := ← fields.optional "numeric_precision" none (orNull? asInt32?)
    numericScale := ← fields.optional "numeric_scale" none (orNull? asInt32?) }

/-- A key type: its name, or an object with the name as its only key. -/
def readKeyType? : Json → Option KeyType
  | .text (some name) => KeyType.ofName? name
  | .object [(some name, .null)] => KeyType.ofName? name
  | .object [(some name, .object [])] => KeyType.ofName? name
  | _ => none

def readMariadb? (j : Json) : Option MariadbFacts := do
  let fields ← record? ["auto_increment", "data_type_length", "key_type"] j
  return {
    autoIncrement := ← fields.optional "auto_increment" false asBool?
    dataTypeLength := ← fields.optional "data_type_length" 0 asInt64?
    keyType := ← fields.optional "key_type" .none readKeyType? }

/-- The name of the system, and the value without it: the member `engine` of an object, or the first
item of an array. -/
def takeEngine? : Json → Option (String × Json)
  | .object members =>
    match members.partition fun member => member.1 == some "engine" with
    | ([(_, .text (some name))], rest) => some (name, .object rest)
    | _ => none
  | .array (.text (some name) :: rest) => some (name, .array rest)
  | _ => none

/-- The facts of the system that the value names. -/
def read? (j : Json) : Option VendorFacts :=
  match takeEngine? j with
  | some ("postgres", rest) => (readPostgres? rest).map .postgres
  | some ("mariadb", rest) => (readMariadb? rest).map .mariadb
  | _ => none

end VendorFacts

namespace Column

/-- A column that shares its object with vendor facts. No value in it may be deeper than `levels`,
and all must be readable. -/
def readShared? (levels : Nat) (j : Json) : Option Column := do
  guard (isReadable j && depth j ≤ levels + 1)
  let fields ← objectRecord? ("vendor" :: fieldNames) j
  let column ← ofRecord? DataType.readShared? fields
  let vendor ← fields.optional "vendor" none (orNull? VendorFacts.read?)
  return { column with vendor }

end Column

namespace Table

/-- A table whose columns are read in some way. -/
def readWith? (readColumn : Json → Option Column) (j : Json) : Option Table := do
  let fields ← record? ["name", "schema", "columns"] j
  return {
    name := ← fields.required "name" asString?
    schema := ← fields.optional "schema" "" asString?
    columns := ← fields.required "columns" (asList? readColumn) }

/-- A table that stands alone. -/
def read? (j : Json) : Option Table :=
  readWith? Column.read? j

end Table

end RowTypes
