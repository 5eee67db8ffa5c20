import RowTypes.CommandLine.Connection
import RowTypes.CommandLine.Error
import RowTypes.Config.Decoding
import RowTypes.Journal

/-!
Sessions: what a command works with. A session holds the file tree, the log file and the queries that
were asked; the actions of this module change it and may fail.
-/

namespace RowTypes

open Storage

/-- What a command finds around it. -/
structure Surroundings where
  /-- Which notes go to the log file, if something is set about it. -/
  logSetting : Option String := none
  /-- The time that stands in the log. -/
  time : String
  stamp : RunStamp
  /-- The server that a connection string leads to, if it answers. -/
  connect : String → Option Server
  /-- What comes of the programs that are started. -/
  launch : Command.Launcher := Shell.launch

/-- A log file that was opened. -/
structure LogFile where
  location : Location
  /-- What the file holds since the last note. -/
  content : ByteArray

/-- What a command has done so far. -/
structure Session where
  tree : Tree
  logFile : Option LogFile := none
  /-- The queries that servers were asked. -/
  asked : List Query := []

/-- Something that a command does: it goes on with a value or ends the command with an error, and
either way leaves a session. -/
abbrev Procedure := ReaderT Surroundings (ExceptT CommandError (StateM Session))

namespace Session

/-- Write a note to the log file. Once another file stands in place of the one that was opened, no
more notes are seen. -/
def note (env : Surroundings) (entry : LogEntry) (session : Session) : Session :=
  match session.logFile with
  | none => session
  | some log =>
    if (LogFilter.ofSetting env.logSetting).passes entry then
      if session.tree.get? log.location = some (.file log.content) then
        let content := log.content ++ (entry.line env.time).toUTF8
        { session with
          tree := session.tree.put log.location (.file content)
          logFile := some { log with content } }
      else session
    else session

end Session

namespace Procedure

def notes (entries : List LogEntry) : Procedure Unit := do
  let env ← read
  modify fun session => entries.foldl (fun session entry => session.note env entry) session

/-- A note of the command line. -/
def event (name : String) (fields : List (String × Json)) (level : Level := .info) : Procedure Unit :=
  notes [{ level, origin := .commandLine, event := some name, fields }]

/-- Do something to the file tree that may fail. -/
def onTree {ε α : Type} (wrap : ε → CommandError) (change : Tree → Tree × Except ε α) : Procedure α := do
  match change (← get).tree with
  | (tree, .ok value) =>
    modify fun session => { session with tree }
    return value
  | (tree, .error e) =>
    modify fun session => { session with tree }
    throw (wrap e)

/-- Go on with a value, or end with an error. -/
def ofExcept {ε α : Type} (wrap : ε → CommandError) : Except ε α → Procedure α
  | .ok value => return value
  | .error e => throw (wrap e)

/-- Open the log file: notes are added to what it holds. -/
def openLog (path : String) : Procedure Unit := do
  let tree := (← get).tree
  match tree.appendFile path ByteArray.empty with
  | .error e => throw (.io e)
  | .ok tree =>
    match tree.locate path, tree.readBytes path with
    | .ok location, .ok content =>
      modify fun session => { session with tree, logFile := some { location, content } }
    | _, _ => modify fun session => { session with tree }

def loadConfig (path : String) : Procedure Config := do
  match (← get).tree.readText path with
  | .error e => throw (.config (.unreadable e))
  | .ok text => ofExcept .config (Config.parse text)

end Procedure

/-- Tables that can be loaded by schema, and the name of their database system. -/
inductive OpenSource where
  | snapshot (engine : String) (tables : List Table)
  | server (server : Server)

namespace OpenSource

open Procedure
open Json (str int)

def engineName : OpenSource → String
  | snapshot engine _ => engine
  | server _ => Server.engineName

def openSnapshot (path : String) : Procedure OpenSource := do
  match (← get).tree.readText path with
  | .error e => throw (.schema (.unreadable path e))
  | .ok text =>
    match Snapshot.parse? text with
    | none => throw (.schema .malformed)
    | some written =>
      notes (Journal.ofSnapshotTypes written)
      let tables ← ofExcept .schema written.tableSet
      notes [Journal.snapshotRead path written]
      event "snapshot_loaded" [("path", str path)]
      return .snapshot written.engine tables

/-- Connect to the server of a connection string. -/
def openServer (connection : String) : Procedure OpenSource := do
  if !Connection.isPostgres connection then
    throw (.unsupportedEngine (Connection.redact connection))
  event "connecting"
    [("engine", str Server.engineName), ("connection", str (Connection.redact connection))]
  match (← read).connect connection with
  | some answering => return .server answering
  | none => throw .connection

def ofRequest (request : Arguments.LoadRequest) : Procedure OpenSource :=
  match request.source with
  | .snapshot path => openSnapshot path
  | .server connection => openServer connection

def loadSchema (source : OpenSource) (options : LoadOptions) (schema : String) :
    Procedure (List Table) := do
  match source with
  | .snapshot _ tables => return tablesOfSchema tables schema
  | .server answering =>
    let asked := answering.schemaQueries options schema
    modify fun session => { session with asked := session.asked ++ asked }
    match answering.loadSchema options schema with
    | (tables, failed) =>
      notes (tables.flatMap Journal.ofServerTable)
      match failed with
      | some e => throw (.schema e)
      | none => return tables

/-- The tables of all schemas, one schema after the other. -/
def loadSchemas (source : OpenSource) (options : LoadOptions) :
    List String → Procedure (List Table)
  | [] => return []
  | schema :: rest => do
    let tables ← source.loadSchema options schema
    event "schema_loaded" [("schema", str schema), ("tables", int tables.length)]
    return tables ++ (← source.loadSchemas options rest)

end OpenSource

end RowTypes
