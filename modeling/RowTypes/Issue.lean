import RowTypes.Schema.Basic

/-!
Issues: what a generation notes about a table although it goes on.
-/

namespace RowTypes

/-- What is wrong. -/
inductive IssueCode where
  | missingRelationshipTarget
  | duplicateField
  | formatterFailed
  deriving DecidableEq, Repr, Inhabited

def IssueCode.name : IssueCode → String
  | missingRelationshipTarget => "missing_relationship_target"
  | duplicateField => "duplicate_field"
  | formatterFailed => "formatter_failed"

/-- A warning about a table, or about one of its columns. -/
structure Issue where
  code : IssueCode
  message : String
  schema : String
  table : String
  column : Option String := none
  deriving DecidableEq, Repr, Inhabited

namespace Issue

def level : String := "warning"

/-- The table `target` that a column refers to is not loaded. -/
def missingTarget (table : Table) (column target : String) : Issue :=
  { code := .missingRelationshipTarget
    message := "referenced table " ++ target ++ " is not loaded, kept the scalar type"
    schema := table.schema
    table := table.name
    column := some column }

/-- A struct has two fields of one name. -/
def duplicateField (table : Table) (field : String) : Issue :=
  { code := .duplicateField
    message := "field " ++ field ++ " is emitted more than once"
    schema := table.schema
    table := table.name }

def formatterFailed (table : Table) (message : String) : Issue :=
  { code := .formatterFailed, message, schema := table.schema, table := table.name }

end Issue

end RowTypes
