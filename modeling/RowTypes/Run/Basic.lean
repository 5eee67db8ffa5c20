import RowTypes.Formatter
import RowTypes.Run.FileGroup
import RowTypes.Schema.Consistency
import RowTypes.Storage.AtomicWrite

/-!
Runs: the selected tables are rendered and merged file by file. What goes wrong with one file is
reported for its tables and does not touch the others; only unusable options or an inconsistent
table set end a run before it starts.
-/

namespace RowTypes

open Storage

/-- What happened to the tables of one file. -/
structure GroupRun where
  group : FileGroup
  /-- What the file held before, if it could be read. -/
  original : Option String
  result : Except FileError GroupMerge
  /-- Why the formatter failed, if it did. -/
  formatterFailure : Option Formatter.Failure := none

namespace GroupRun

/-- The entry of a table of which nothing was written. -/
def failedEntry (path : String) (error : FileError) (table : Table) : TableReport :=
  { schema := table.schema
    table := table.name
    path := some path
    outcome := .failed
    error := some error.message }

/-- The entry of a table whose block was merged. -/
def mergedEntry (path : String) (merge : TableMerge) : TableReport :=
  { schema := merge.table.schema
    table := merge.table.name
    path := some path
    outcome := merge.outcome }

def entries (run : GroupRun) : List TableReport :=
  match run.result with
  | .error e => run.group.tables.map (failedEntry run.group.path e)
  | .ok merge => merge.merges.map (mergedEntry run.group.path)

/-- What there is to note about the tables; a failure of the formatter is noted for the first. -/
def warnings (run : GroupRun) : List Issue :=
  match run.result with
  | .error _ => []
  | .ok merge =>
    merge.issues ++
      match run.formatterFailure, run.group.tables with
      | some failure, table :: _ => [Issue.formatterFailed table failure.message]
      | _, _ => []

def record (report : Report) (run : GroupRun) : Report :=
  run.entries.foldl Report.recordTable (run.warnings.foldl Report.recordWarning report)

end GroupRun

namespace Catalog

/-- Run the formatter of the options, if there is one, and say why it failed if it did. -/
def format (cat : Catalog) (tree : Tree) (path : String) (launch : Command.Launcher) :
    Tree × Option Formatter.Failure :=
  match cat.config.formatter with
  | none => (tree, none)
  | some command =>
    match Formatter.run tree command path launch with
    | (tree, .ok ()) => (tree, none)
    | (tree, .error failure) => (tree, some failure)

/-- Merge the blocks of a group into its file. The file is written, and then formatted, only if its
text changes. -/
def runGroup (cat : Catalog) (tree : Tree) (group : FileGroup) (launch : Command.Launcher) :
    Tree × GroupRun :=
  match readExisting tree group.path with
  | .error reason => (tree, { group, original := none, result := .error (.io reason) })
  | .ok original =>
    match cat.mergeGroup original group.tables with
    | .error e => (tree, { group, original := some original, result := .error e })
    | .ok merge =>
      if merge.changes then
        match writeAtomic tree group.path merge.text.toUTF8 with
        | (tree, .error reason) =>
          (tree, { group, original := some original, result := .error (.io reason) })
        | (tree, .ok ()) =>
          let (tree, formatterFailure) := cat.format tree group.path launch
          (tree, { group, original := some original, result := .ok merge, formatterFailure })
      else (tree, { group, original := some original, result := .ok merge })

def runGroups (cat : Catalog) (tree : Tree) (groups : List FileGroup) (launch : Command.Launcher) :
    Tree × List GroupRun :=
  match groups with
  | [] => (tree, [])
  | group :: rest =>
    let (tree, run) := cat.runGroup tree group launch
    let (tree, runs) := cat.runGroups tree rest launch
    (tree, run :: runs)

/-- The options and the table set are fit for a run. -/
def check (cat : Catalog) : Except RunError Unit :=
  if !cat.config.isValid then .error .noFormatterProgram
  else (checkTables cat.tables).mapError .inconsistent

/-- Generate the structs of the tables that `select` takes. All tables of the catalog are looked at
to resolve references, and formatters are started by `launch`. -/
def run (cat : Catalog) (tree : Tree) (select : Table → Bool)
    (launch : Command.Launcher := Shell.launch) : Except RunError (Tree × List GroupRun) :=
  match cat.check with
  | .error e => .error e
  | .ok () => .ok (cat.runGroups tree (cat.fileGroups (cat.tables.filter select)) launch)

end Catalog

namespace Report

def ofRuns (stamp : RunStamp) (runs : List GroupRun) : Report :=
  runs.foldl GroupRun.record { stamp }

def write (report : Report) (tree : Tree) (path : String) : Tree × Except FileError Unit :=
  match writeAtomic tree path report.toJson.pretty.toUTF8 with
  | (tree, .error reason) => (tree, .error (.io reason))
  | (tree, .ok ()) => (tree, .ok ())

end Report

end RowTypes
