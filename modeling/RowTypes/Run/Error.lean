import RowTypes.Config.Error
import RowTypes.Field
import RowTypes.Imports
import RowTypes.Schema.Error

/-!
Why a generation fails: as a whole before it has done anything, or for one file, whose tables are
then reported as failed. A report can always be written as JSON, so that it cannot is none of the reasons.
-/

namespace RowTypes

/-- Why a run does nothing at all. -/
inductive RunError where
  /-- A formatter is set that names no program. -/
  | noFormatterProgram
  /-- The table set is not consistent. -/
  | inconsistent (place : Inconsistency)
  deriving DecidableEq, Repr

/-- The causes keep the words they have where they arise outside of a run. -/
def RunError.message : RunError → String
  | noFormatterProgram => "invalid configuration: " ++ ConfigError.noProgramMessage
  | inconsistent place => "invalid schema: " ++ SchemaError.snapshotMessage place.message

/-- Why a file is not written. -/
inductive FileError where
  | missingTarget (cause : MissingTarget)
  /-- Two tables of the file have one type name. -/
  | duplicateType (typeName first second : String)
  | malformed (cause : MergeError)
  | io (reason : Storage.IoError)
  deriving DecidableEq, Repr

def FileError.message : FileError → String
  | missingTarget cause => cause.message
  | duplicateType typeName first second =>
    "tables " ++ first ++ " and " ++ second ++ " both generate type " ++ typeName ++
      " in the same file"
  | malformed cause => "malformed existing file: " ++ cause.message
  | io reason => "io error: " ++ reason.message

end RowTypes
