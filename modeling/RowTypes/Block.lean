import RowTypes.Field
import RowTypes.Packages
import RowTypes.Relation

/-!
Blocks: the generated text of one table. A block is a struct with one field per column, one field
per foreign key that refers to the table and the reserved field, followed by the constants that
name the columns.
-/

namespace RowTypes

/-- The generated text of one table and what goes with it. -/
structure Block where
  typeName : String
  /-- The struct, down to the line of its closing brace. -/
  declaration : String
  /-- The constants, down to the line of their closing parenthesis. -/
  constants : String
  /-- The packages that the fields need. -/
  dependencies : Packages
  /-- What there is to note about the table. -/
  issues : List Issue
  deriving DecidableEq, Repr, Inhabited

namespace Block

def text (block : Block) : String :=
  block.declaration ++ block.constants

/-- Lines, each with its line feed. -/
def unlines (lines : List String) : String :=
  String.join (lines.map (· ++ "\n"))

/-- A line inside a struct or a list of constants. -/
def indented (line : String) : String :=
  "\t" ++ line

/-- The comment lines and the field line of a column. -/
def columnLines (column : Column) (type : FieldType) : List String :=
  (column.commentLines.map fun line => indented ("// " ++ line)) ++
    [indented (Naming.fieldName column.name ++ " " ++ type.name ++ " `json:\"" ++
      Naming.keyName column.name ++ "\" " ++ Tag.columnKey ++ ":\"" ++
      (ColumnTag.ofColumn column).format ++ "\"`")]

/-- The line of a field that lists referring rows. -/
def relationLine (field : RelationField) : String :=
  indented (field.fieldName ++ " " ++ field.listType ++ " `" ++ Tag.columnKey ++ ":\"" ++
    field.tag.format ++ "\"`")

/-- The line of the reserved field. -/
def reservedLine (table : Table) : String :=
  indented (Tag.reservedField ++ " " ++ FieldType.anyName ++ " `json:\"-\" " ++ Tag.tableKey ++
    ":\"" ++ (TableTag.mk table.schema table.name).format ++ "\"`")

/-- A constant: the field that it names, and its value. -/
structure Constant where
  field : String
  value : String
  deriving DecidableEq, Repr, Inhabited

def columnConstant (table : Table) (column : Column) : Constant :=
  let field := Naming.fieldName column.name
  ⟨field, field ++ "|" ++ qualifyColumn table.schema table.name column.name⟩

/-- The constant of a foreign key that refers to the table. -/
def relationConstant (field : RelationField) : Constant :=
  ⟨field.fieldName, field.fieldName ++ "|#" ++ field.reference⟩

def Constant.line (typeName : String) (constant : Constant) : String :=
  indented (typeName ++ "_" ++ constant.field ++ " string = \"" ++ constant.value ++ "\"")

/-- The fields that have the name of a field before them, which follow fields named `seen`. -/
def repeated (seen : List String) : List String → List String
  | [] => []
  | field :: rest =>
    if seen.contains field then field :: repeated seen rest else repeated (field :: seen) rest

end Block

namespace Catalog

/-- The types of the fields of some columns, each with what there is to note; the first column that
fails ends it. -/
def fieldTypes (cat : Catalog) (table : Table) :
    List Column → Except MissingTarget (List (Column × FieldType × List Issue))
  | [] => .ok []
  | column :: rest =>
    match cat.fieldType table column with
    | .error e => .error e
    | .ok (type, issues) =>
      match cat.fieldTypes table rest with
      | .error e => .error e
      | .ok fields => .ok ((column, type, issues) :: fields)

open Block in
/-- The block of a table, from the types of the fields of its columns. -/
def blockOf (cat : Catalog) (table : Table) (fields : List (Column × FieldType × List Issue)) :
    Block :=
  let typeName := cat.typeName table
  let relations := cat.relations table
  let constants := table.columns.map (columnConstant table) ++ relations.map relationConstant
  { typeName
    declaration := unlines
      (["type " ++ typeName ++ " struct \x7b"] ++
        (fields.flatMap fun (column, type, _) => columnLines column type) ++
        relations.map relationLine ++ [reservedLine table, "\x7d"])
    constants := unlines
      (["// " ++ typeName, "const ("] ++ constants.map (Constant.line typeName) ++ [")"])
    dependencies := Packages.ofList (fields.filterMap fun (_, type, _) => type.dependency)
    issues := (fields.flatMap fun (_, _, issues) => issues) ++
      (repeated [] (constants.map (·.field))).map (Issue.duplicateField table) }

def render (cat : Catalog) (table : Table) : Except MissingTarget Block :=
  match cat.fieldTypes table table.columns with
  | .error e => .error e
  | .ok fields => .ok (cat.blockOf table fields)

end Catalog

end RowTypes
