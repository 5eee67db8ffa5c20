import RowTypes.Shell
import RowTypes.Text.Blank

/-!
Formatters: a command that is run on a written file, with the path of the file as its last argument.
-/

namespace RowTypes.Formatter

open Storage Text

/-- Why a formatter failed. -/
inductive Failure where
  | spawn (program : String) (reason : String)
  | failed (program : String) (status : Command.Status) (errors : String)
  deriving DecidableEq

def Failure.message : Failure → String
  | spawn program reason => "failed to start " ++ program ++ ": " ++ reason
  | failed program status errors =>
    program ++ " exited with " ++ status.describe ++ ": " ++ errors

/-- Run a command on the file at `path`. An empty command does nothing. -/
def run (tree : Tree) (command : List String) (path : String)
    (launch : Command.Launcher := Shell.launch) : Tree × Except Failure Unit :=
  match command with
  | [] => (tree, .ok ())
  | program :: arguments =>
    match Command.start launch tree program (arguments ++ [path]) with
    | .error reason => (tree, .error (.spawn program reason))
    | .ok outcome =>
      ({ tree with nodes := outcome.nodes },
        if outcome.status.isSuccess then .ok ()
        else .error (.failed program outcome.status
          (String.ofList (trim (decodeLossy outcome.errors)))))

end RowTypes.Formatter
