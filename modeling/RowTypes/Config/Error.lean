import RowTypes.Storage.Tree

/-!
Why options cannot be had: their file cannot be read, its text is no options, or they are not usable.
-/

namespace RowTypes

/-- Why there are no options. -/
inductive ConfigError where
  | unreadable (reason : Storage.IoError)
  /-- The text is no configuration. -/
  | malformed
  /-- A formatter is set that names no program. -/
  | noFormatterProgram
  deriving DecidableEq, Repr

namespace ConfigError

def noProgramMessage : String :=
  "invalid configuration: formatter must name a program"

/-- The text of an error. That of a malformed configuration is left open. -/
def message? : ConfigError → Option String
  | unreadable reason => some ("io error: " ++ reason.message)
  | malformed => none
  | noFormatterProgram => some noProgramMessage

end ConfigError

end RowTypes
