import RowTypes.Naming
import RowTypes.Schema.Basic
import RowTypes.Storage.Path

/-!
Options of a generation: global ones, and overrides for single tables. `Config.resolve` gives the
options that hold for one table once every default is filled in.
-/

namespace RowTypes

/-- What to do when the table that a field would point to is not loaded. -/
inductive RelationshipPolicy where
  /-- Record a warning and keep the scalar type. -/
  | lenient
  /-- Fail the table. -/
  | strict
  deriving DecidableEq, Repr, Inhabited

namespace RelationshipPolicy

def name : RelationshipPolicy → String
  | lenient => "lenient"
  | strict => "strict"

def ofName? : String → Option RelationshipPolicy
  | "lenient" => some lenient
  | "strict" => some strict
  | _ => none

end RelationshipPolicy

/-- Options of one table; what is not set comes from the global options. -/
structure TableConfig where
  /-- The file that the struct of the table is written to. -/
  path : Option String := none
  packageName : Option String := none
  suffix : Option String := none
  /-- Foreign key columns that become a pointer to the struct of their target. -/
  includeReferenced : List String := []
  /-- Add a list field for every foreign key on this table. -/
  includePointed : Bool := false
  deriving DecidableEq, Repr, Inhabited

/-- Options of a generation. -/
structure Config where
  /-- The directory of every file without a path of its own. -/
  outputRoot : String := ""
  /-- Package name of new files. -/
  packageName : String := ""
  /-- Text at the end of every type name. -/
  suffix : String := ""
  policy : RelationshipPolicy := .lenient
  /-- A command that is run on every written file, whose path is its last argument. -/
  formatter : Option (List String) := none
  /-- Overrides by `schema.table` or by `table`. -/
  tables : List (String × TableConfig) := []
  deriving DecidableEq, Repr, Inhabited

/-- Which foreign key columns become pointers. -/
inductive Inclusion where
  | nothing
  | all
  | columns (entries : List String)
  deriving DecidableEq, Repr, Inhabited

namespace Inclusion

/-- The entry that stands for every column. -/
def wildcard : String := "*"

/-- The rule that a list of entries spells. -/
def ofEntries (entries : List String) : Inclusion :=
  if entries.isEmpty then .nothing
  else if entries.contains wildcard then .all
  else .columns entries

/-- An entry names a column as the database does or as the struct does. -/
def includes (rule : Inclusion) (column : String) : Bool :=
  match rule with
  | .nothing => false
  | .all => true
  | .columns entries =>
    let field := Naming.fieldName column
    entries.any fun entry => entry == column || entry == field

end Inclusion

/-- Options of one table with every default filled in. -/
structure TableOptions where
  path : String
  packageName : String
  suffix : String
  inclusion : Inclusion
  includePointed : Bool
  deriving DecidableEq, Repr, Inhabited

namespace Config

/-- The suffix of a table that wants none although there is a global one. -/
def emptySuffix : String := "<empty>"

/-- The options are usable: a formatter that is set names a program. -/
def isValid (config : Config) : Bool :=
  match config.formatter with
  | some (program :: _) => !program.isEmpty
  | some [] => false
  | none => true

/-- The override for a table, if there is one: that for `schema.table` before that for `table`. -/
def find? (config : Config) (table : Table) : Option TableConfig :=
  config.tables.lookup (table.schema ++ "." ++ table.name) <|> config.tables.lookup table.name

/-- The file of a table that has no path of its own. -/
def defaultPath (config : Config) (table : Table) : String :=
  Storage.join config.outputRoot (Naming.fileName table.name ++ ".go")

/-- The suffix of a table, from its own setting and the global one. -/
def resolveSuffix (config : Config) : Option String → String
  | some text =>
    if text = emptySuffix then "" else if text.isEmpty then config.suffix else text
  | none => config.suffix

def resolve (config : Config) (table : Table) : TableOptions :=
  let own := (config.find? table).getD {}
  { path := own.path.getD (config.defaultPath table)
    packageName := (own.packageName.filter (!·.isEmpty)).getD config.packageName
    suffix := config.resolveSuffix own.suffix
    inclusion := .ofEntries own.includeReferenced
    includePointed := own.includePointed }

end Config

end RowTypes
