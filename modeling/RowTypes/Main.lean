import RowTypes.CommandLine.Basic
import Std.Time

/-!
The program. It reads the files below the working directory, does what the command line asks for, and
writes back what has changed. Formatters are programs of the small shell, and no server is reached.
-/

namespace RowTypes.Program

open Storage

/-- What is there at a directory entry and below it. -/
partial def readEntry (parent : Location) (entry : IO.FS.DirEntry) :
    IO (List (Location × Node)) := do
  let here := parent ++ [entry.fileName]
  if ← entry.path.isDir then
    let below ← (← entry.path.readDir).toList.mapM (readEntry here)
    return (here, .directory) :: below.flatten
  else
    return [(here, .file (← IO.FS.readBinFile entry.path))]

/-- The working directory with those above it and all that is below it. -/
def readTree : IO Tree := do
  let dir ← IO.currentDir
  let workDir := dir.components.filter (!·.isEmpty)
  let above := (List.range workDir.length).map fun n => (workDir.take (n + 1), Node.directory)
  let below ← (← dir.readDir).toList.mapM (readEntry workDir)
  return { nodes := above ++ below.flatten, workDir }

def locationText (loc : Location) : String :=
  "/" ++ "/".intercalate loc

/-- Write what differs between two trees. -/
def writeChanges (before after : Tree) : IO Unit := do
  for (loc, node) in after.nodes do
    if before.get? loc != some node then
      match node with
      | .directory => IO.FS.createDirAll (locationText loc)
      | .file content => IO.FS.writeBinFile (locationText loc) content
  for (loc, _) in before.nodes do
    if (after.get? loc).isNone then IO.FS.removeFile (locationText loc)

def hexText (bytes : List UInt8) : String :=
  String.ofList (bytes.flatMap fun b => [Json.hexDigit (b.toNat / 16), Json.hexDigit (b.toNat % 16)])

/-- The name of a run, from sixteen random bytes. -/
def runName (bytes : List UInt8) : String :=
  let group (start count : Nat) : String := hexText ((bytes.drop start).take count)
  "-".intercalate [group 0 4, group 4 2, group 6 2, group 8 2, group 10 6]

def now : IO String := do
  let time := Std.Time.DateTime.ofTimestampWithZone (← Std.Time.Timestamp.now) Std.Time.TimeZone.UTC
  return time.format "uuuu-MM-dd'T'HH:mm:ss.SSSSSSSSSXXX"

/-- The environment variable that says which notes go to the log file. -/
def logVariable : String :=
  "ROWTYPES_LOG"

def usage : String :=
  "usage: rowtypes [--log-file PATH] generate --config PATH SOURCE [--table TABLE]... [--strict]" ++
    " [--report PATH]\n" ++
  "       rowtypes [--log-file PATH] snapshot SOURCE --out PATH\n" ++
  "SOURCE: (--snapshot PATH | --conn CONNECTION_STRING) --schema SCHEMA... [--no-views]" ++
    " [--no-comments]"

def version : String :=
  "rowtypes 0.1.0"

def report : Except CommandError Unit → IO UInt32
  | .ok () => return 0
  | .error (.usage .help) => do
    IO.println usage
    return 0
  | .error (.usage .version) => do
    IO.println version
    return 0
  | .error (.usage _) => do
    IO.eprintln usage
    return 2
  | .error e => do
    IO.eprintln ("error: " ++ e.message?.getD "invalid input")
    return 1

end RowTypes.Program

open RowTypes RowTypes.Program in
def main (words : List String) : IO UInt32 := do
  let tree ← readTree
  let time ← now
  let id := runName (← IO.getRandomBytes 16).toList
  let env : Surroundings :=
    { logSetting := ← IO.getEnv logVariable
      time
      stamp := { id, startedAt := time }
      connect := fun _ => none }
  let (result, session) := CommandLine.run env tree words
  writeChanges tree session.tree
  report result
