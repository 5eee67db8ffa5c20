import RowTypes.CommandLine.Session

/-!
The commands. `generate` loads tables and writes their structs to files; `snapshot` loads tables and
writes them as a snapshot. `CommandLine.run` does what the words of a command line ask for.
-/

namespace RowTypes.CommandLine

open Storage Procedure Arguments
open Json (str int)

/-- Generate the tables that the selectors take. -/
def runTables (cat : Catalog) (selectors : List Selector) : Procedure Report := do
  let env ← read
  let stamp := env.stamp
  let select := Selector.anySelects selectors
  ofExcept .run cat.check
  notes [Journal.started cat stamp (cat.fileGroups (cat.tables.filter select)).length]
  let (tree, runs) ← ofExcept .run (cat.run (← get).tree select env.launch)
  modify fun session => { session with tree }
  notes (Journal.ofRuns cat stamp runs)
  return .ofRuns stamp runs

/-- Note which selectors take no table. -/
def noteUnmatched (selectors : List Selector) (tables : List Table) (schemas : List String) :
    Procedure Unit :=
  for selector in Selector.unmatched selectors tables do
    event "table_not_found"
      [("schema", str (selector.missedSchema schemas)), ("table", str selector.table)] .warn

/-- The end of a generation: it fails if some table did. -/
def finish (report : Report) : Procedure Unit := do
  event "run_finished"
    [("run_id", str report.stamp.id), ("tables", int report.tables.length),
      ("failed", int report.errorCount), ("warnings", int report.warnings.length)]
  if report.hasFailures then throw (.tablesFailed report.errorCount)

def generate (request : GenerateRequest) : Procedure Unit := do
  let config ← loadConfig request.config
  let config := if request.strict then { config with policy := .strict } else config
  event "config_loaded" [("path", str request.config), ("tables", int config.tables.length)]
  let source ← OpenSource.ofRequest request.load
  let tables ← source.loadSchemas request.load.options request.load.schemas
  let report ← runTables ⟨config, tables⟩ request.selectors
  noteUnmatched request.selectors tables request.load.schemas
  let report := report.recordUnmatched request.selectors tables request.load.schemas
  if let some path := request.report then
    onTree .report fun tree => report.write tree path
    event "report_written" [("path", str path)]
  finish report

def snapshot (request : SnapshotRequest) : Procedure Unit := do
  let source ← OpenSource.ofRequest request.load
  let tables ← source.loadSchemas request.load.options request.load.schemas
  let written : Snapshot := { engine := source.engineName, tables }
  onTree .io fun tree => writeAtomic tree request.out written.write.toUTF8
  event "snapshot_written" [("path", str request.out), ("tables", int tables.length)]

def perform (invocation : Invocation) : Procedure Unit := do
  if let some path := invocation.logFile then openLog path
  match invocation.job with
  | .generate request => generate request
  | .snapshot request => snapshot request

/-- Do what the words of a command line ask for. -/
def run (env : Surroundings) (tree : Tree) (words : List String) :
    Except CommandError Unit × Session :=
  match Arguments.parse words with
  | .error e => (.error (.usage e), { tree })
  | .ok invocation => ((perform invocation).run env).run { tree }

end RowTypes.CommandLine
