/-!
Tables, their columns, and what a database system says about a column beyond the common facts. A
table set is loaded once and then only read.
-/

namespace RowTypes

/-- The kinds of values that the native types of all systems are sorted into. -/
inductive DataType where
  | string
  | integer
  | double
  | date
  | geo
  | unknown
  deriving DecidableEq, Repr, Inhabited

namespace DataType

def name : DataType → String
  | string => "String"
  | integer => "Integer"
  | double => "Double"
  | date => "Date"
  | geo => "Geo"
  | unknown => "Unknown"

def all : List DataType :=
  [string, integer, double, date, geo, unknown]

def ofName? (s : String) : Option DataType :=
  all.find? fun kind => kind.name == s

end DataType

/-- The column that a foreign key refers to. Without a table and a column it refers to nothing. -/
structure Reference where
  table : String := ""
  schema : String := ""
  column : String := ""
  deriving DecidableEq, Repr, Inhabited

/-- Neither a table nor a column is named. -/
def Reference.isEmpty (ref : Reference) : Bool :=
  ref.table.isEmpty && ref.column.isEmpty

/-- What PostgreSQL says about a column. -/
structure PostgresFacts where
  /-- `ALWAYS` or `BY DEFAULT` for identity columns. -/
  identity : Option String := none
  /-- The default value is the next value of a sequence. -/
  sequenceDefault : Bool := false
  udtName : String := ""
  characterMaxLength : Option Int32 := none
  numericPrecision : Option Int32 := none
  numericScale : Option Int32 := none
  deriving DecidableEq, Repr, Inhabited

/-- How MariaDB indexes a column. -/
inductive KeyType where
  | none
  | primary
  | unique
  | multiple
  deriving DecidableEq, Repr, Inhabited

namespace KeyType

def name : KeyType → String
  | none => ""
  | primary => "PRI"
  | unique => "UNI"
  | multiple => "MUL"

def all : List KeyType :=
  [none, primary, unique, multiple]

def ofName? (s : String) : Option KeyType :=
  all.find? fun key => key.name == s

end KeyType

/-- What MariaDB says about a column. -/
structure MariadbFacts where
  autoIncrement : Bool := false
  /-- Length in characters or precision of a number. -/
  dataTypeLength : Int64 := 0
  keyType : KeyType := .none
  deriving DecidableEq, Repr, Inhabited

/-- What one database system says about a column. -/
inductive VendorFacts where
  | postgres (facts : PostgresFacts)
  | mariadb (facts : MariadbFacts)
  /-- Another system, of which nothing but its label is known. -/
  | other (label : String)
  deriving DecidableEq, Repr, Inhabited

namespace VendorFacts

def label : VendorFacts → String
  | postgres _ => "PostgreSQL"
  | mariadb _ => "MariaDB"
  | other label => label

/-- Whether the system numbers the rows by itself; of an unknown system it is never assumed. -/
def autoIncrement : VendorFacts → Bool
  | postgres facts => facts.identity.isSome || facts.sequenceDefault
  | mariadb facts => facts.autoIncrement
  | other _ => false

end VendorFacts

/-- A column of a table. -/
structure Column where
  name : String
  dataType : DataType := .unknown
  /-- The type in the words of the database system. -/
  nativeType : String := ""
  primaryKey : Bool := false
  /-- In a consistent table set this holds exactly if `target` names a column. -/
  foreignKey : Bool := false
  target : Reference := {}
  nullable : Bool := false
  defaultValue : Option String := none
  comment : Option String := none
  vendor : Option VendorFacts := none
  deriving DecidableEq, Repr, Inhabited

namespace Column

/-- The column with a foreign key on `ref`; it is one only if `ref` names a column. -/
def withReference (column : Column) (ref : Reference) : Column :=
  { column with target := ref, foreignKey := !ref.column.isEmpty }

def refersTo (column : Column) (schema table : String) : Bool :=
  column.foreignKey && column.target.schema == schema && column.target.table == table

/-- The lines of the comment, none if there is no comment. -/
def commentLines (column : Column) : List String :=
  match column.comment with
  | some text => if text.isEmpty then [] else (text.toList.splitOn '\n').map String.ofList
  | none => []

/-- Whether the database system numbers the rows by this column. -/
def autoIncrement (column : Column) : Bool :=
  column.vendor.any VendorFacts.autoIncrement

end Column

/-- A table with its columns in their order. -/
structure Table where
  schema : String := ""
  name : String
  columns : List Column := []
  deriving DecidableEq, Repr, Inhabited

/-- `schema.name`, or `name` alone in the empty schema. -/
def qualify (schema name : String) : String :=
  if schema.isEmpty then name else schema ++ "." ++ name

namespace Table

def qualifiedName (table : Table) : String :=
  qualify table.schema table.name

def isNamed (table : Table) (schema name : String) : Bool :=
  table.schema == schema && table.name == name

def column? (table : Table) (name : String) : Option Column :=
  table.columns.find? fun column => column.name == name

end Table

end RowTypes
