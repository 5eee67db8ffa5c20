import RowTypes.CommandLine.Arguments
import RowTypes.Run.Error

/-!
Why a command fails, and in which words. The words for command lines, JSON, TOML and connections that do
not work are left open.
-/

namespace RowTypes

inductive CommandError where
  | usage (error : UsageError)
  | schema (error : SchemaError)
  | config (error : ConfigError)
  | run (error : RunError)
  /-- The report cannot be written. -/
  | report (error : FileError)
  /-- There is no connection to the server. -/
  | connection
  | io (reason : Storage.IoError)
  /-- A connection string of an unknown kind, without its password. -/
  | unsupportedEngine (text : String)
  /-- So many tables failed. -/
  | tablesFailed (count : Nat)
  deriving DecidableEq, Repr

namespace CommandError

/-- The text of an error, if it is not left open. -/
def message? : CommandError → Option String
  | usage _ => none
  | schema error => error.message?.map ("core error: " ++ ·)
  | config error => error.message?.map ("configuration error: " ++ ·)
  | run error => some ("generation error: " ++ error.message)
  | report error => some ("generation error: " ++ error.message)
  | connection => none
  | io reason => some ("io error: " ++ reason.message)
  | unsupportedEngine text => some ("unsupported engine: " ++ text)
  | tablesFailed count => some (toString count ++ " table(s) failed")

end CommandError

end RowTypes
