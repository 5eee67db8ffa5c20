/-!
Tags: the annotations that a generated field carries about its column or its table. A tag is one
line, a list of `Key:value` pairs and bare flags parted by commas. Reading ignores what it does not
know, so a tag of a later version can still be read.
-/

namespace RowTypes

/-- What a field of a struct says about its column. -/
structure ColumnTag where
  /-- Name of the column in the database. -/
  name : String := ""
  isPrimaryKey : Bool := false
  /-- `schema.table.column` that the column refers to, the schema optional. -/
  foreignKey : String := ""
  /-- `schema.table.column` that refers to this table; only on fields that list rows. -/
  pointedKey : String := ""
  autoIncrement : Bool := false
  deriving DecidableEq, Repr, Inhabited

/-- What the reserved field of a struct says about its table. -/
structure TableTag where
  schema : String := ""
  table : String := ""
  deriving DecidableEq, Repr, Inhabited

namespace Tag

def columnKey : String := "dbColumn"

def tableKey : String := "dbMetadata"

/-- The reserved field that carries the `TableTag` of a struct. -/
def reservedField : String := "DbMetadata_"

/-- One entry of a tag. -/
inductive Token where
  | flag (name : String)
  | pair (key value : String)
  /-- A key with nothing after its colon. -/
  | bare (key : String)
  deriving DecidableEq, Repr

/-- The entry that a text between commas spells; the first colon ends the key. -/
def Token.ofChars (s : List Char) : Token :=
  match s.span (· != ':') with
  | (name, []) => .flag (String.ofList name)
  | (key, [_]) => .bare (String.ofList key)
  | (key, _ :: value) => .pair (String.ofList key) (String.ofList value)

/-- The entries of a tag in their order, without the empty ones. -/
def tokens (tag : String) : List Token :=
  ((tag.toList.splitOn ',').filter (!·.isEmpty)).map Token.ofChars

/-- The entry `key:value`, or nothing for an empty value. -/
def optionalPair (key value : String) : List String :=
  if value.isEmpty then [] else [key ++ ":" ++ value]

end Tag

open Tag

namespace ColumnTag

/-- Take one entry into account; a later entry replaces an earlier one. -/
def absorb (tag : ColumnTag) : Token → ColumnTag
  | .flag "AutoIncrement" => { tag with autoIncrement := true }
  | .flag "PrimaryKey" => { tag with isPrimaryKey := true }
  | .pair "Column" value => { tag with name := value }
  | .pair "ForeignKey" value => { tag with foreignKey := value }
  | .pair "PointedForeignKey" value => { tag with pointedKey := value }
  | _ => tag

def parse (tag : String) : ColumnTag :=
  (tokens tag).foldl absorb {}

/-- The entries that are written, in their order. -/
def entries (tag : ColumnTag) : List String :=
  optionalPair "Column" tag.name ++
  (if tag.autoIncrement then ["AutoIncrement"] else []) ++
  (if tag.isPrimaryKey then ["PrimaryKey"] else []) ++
  optionalPair "ForeignKey" tag.foreignKey ++
  optionalPair "PointedForeignKey" tag.pointedKey

def format (tag : ColumnTag) : String :=
  ",".intercalate tag.entries

/-- The tag of a field that lists the rows whose column `reference` refers to this table. -/
def pointed (reference : String) : ColumnTag :=
  { pointedKey := reference }

end ColumnTag

namespace TableTag

/-- Take one entry into account; a later entry replaces an earlier one. -/
def absorb (tag : TableTag) : Token → TableTag
  | .pair "Schema" value => { tag with schema := value }
  | .pair "Table" value => { tag with table := value }
  | _ => tag

def parse (tag : String) : TableTag :=
  (tokens tag).foldl absorb {}

def format (tag : TableTag) : String :=
  "Schema:" ++ tag.schema ++ ",Table:" ++ tag.table

end TableTag

end RowTypes
