import RowTypes.CommandLine.Basic
import RowTypes.Proofs.CommandLine.Procedures
import RowTypes.Proofs.Server.Tables

/-!
Loading tables. Tables that a server has are loaded without a trace but in the log. A snapshot that was
written of them yields the same tables but for what no generation looks at.

What is proved:
  1. `yields_server`: what is loaded from a server.
  2. `yields_snapshot`: what is loaded from a snapshot that reads as some tables.
  3. `readText_of_snapshot`: what the file of a snapshot reads as once the command has written it.
-/

namespace RowTypes

open Storage Storage.Tree Procedure Arguments

variable {env : Surroundings} {session after : Session} {server : Server} {options : LoadOptions}
  {schemas : List String} {loaded : String → List Table} {connection path text : String}

namespace OpenSource

theorem yields_loadSchemas {source : OpenSource}
    (h : ∀ schema ∈ schemas, ∀ session, Yields env (source.loadSchema options schema) session
      (loaded schema)) :
    Yields env (source.loadSchemas options schemas) session (schemas.flatMap loaded) := by
  induction schemas generalizing session with
  | nil => exact yields_pure _
  | cons schema schemas ih =>
    obtain ⟨hfirst, hrest⟩ := List.forall_mem_cons.mp h
    refine (hfirst session).bind fun after _ => ?_
    refine (yields_event _ _ _).bind fun after _ => ?_
    exact (ih hrest).bind fun after _ => yields_pure _

/-! ## Servers -/

theorem yields_openServer (hpostgres : Connection.isPostgres connection = true)
    (hserver : env.connect connection = some server) :
    Yields env (openServer connection) session (.server server) := by
  unfold openServer
  simp only [hpostgres, Bool.not_true, Bool.false_eq_true, if_false]
  refine (yields_event _ _ _).bind fun after _ => ⟨after, ?_, .refl _⟩
  rw [outcome_read_bind, hserver]
  rfl

theorem yields_loadSchema_server {schema : String} {tables : List Table}
    (h : server.getTables options schema = .ok tables) :
    Yields env ((OpenSource.server server).loadSchema options schema) session tables := by
  have hloaded : server.loadSchema options schema = (tables, none) := by
    unfold Server.getTables at h
    split at h
    · cases h
    · next heq => rw [heq, Except.ok.inj h]
  have hasked : Yields env (modify fun session : Session =>
      { session with asked := session.asked ++ server.schemaQueries options schema }) session () :=
    ⟨_, rfl, .refl _ _, fun _ _ => rfl, rfl⟩
  refine hasked.bind fun after _ => ?_
  rw [hloaded]
  exact (yields_notes _).bind fun after _ => yields_pure _

/-! ## Snapshots -/

theorem yields_openSnapshot {written : Snapshot} {tables : List Table}
    (htext : session.tree.readText path = .ok text)
    (hread : Snapshot.read text = .ok (written, tables)) :
    Yields env (openSnapshot path) session (.snapshot written.engine tables) := by
  have hparsed : Snapshot.parse? text = some written ∧ written.tableSet = .ok tables := by
    unfold Snapshot.read at hread
    split at hread
    · cases hread
    · next found hparse =>
      cases htables : found.tableSet with
      | error e =>
        rw [htables] at hread
        cases hread
      | ok set =>
        rw [htables] at hread
        cases hread
        exact ⟨hparse, htables⟩
  have hopened : (openSnapshot path).outcome env session = (do
      notes (Journal.ofSnapshotTypes written)
      let tables ← ofExcept .schema (.ok tables)
      notes [Journal.snapshotRead path written]
      event "snapshot_loaded" [("path", Json.str path)]
      return .snapshot written.engine tables : Procedure OpenSource).outcome env session := by
    rw [openSnapshot, outcome_get_bind, htext]
    simp only [hparsed.1, hparsed.2]
  have hyields : Yields env (do
      notes (Journal.ofSnapshotTypes written)
      let tables ← ofExcept .schema (.ok tables)
      notes [Journal.snapshotRead path written]
      event "snapshot_loaded" [("path", Json.str path)]
      return .snapshot written.engine tables : Procedure OpenSource) session
      (.snapshot written.engine tables) :=
    (yields_notes _).bind fun _ _ => (yields_pure tables).bind fun _ _ =>
      (yields_notes _).bind fun _ _ => (yields_event _ _ _).bind fun _ _ => yields_pure _
  obtain ⟨after, houtcome, hquiet⟩ := hyields
  exact ⟨after, hopened.trans houtcome, hquiet⟩

end OpenSource

/-! ## A server and its snapshot -/

/-- The tables that a request asks for, from wherever they come. -/
def loadTables (load : LoadRequest) : Procedure (List Table) := do
  let source ← OpenSource.ofRequest load
  source.loadSchemas load.options load.schemas

theorem yields_server (load : LoadRequest) (hpostgres : Connection.isPostgres connection = true)
    (hserver : env.connect connection = some server)
    (hloads : ∀ schema ∈ load.schemas,
      server.getTables load.options schema = .ok (loaded schema)) :
    Yields env (loadTables { load with source := .server connection }) session
      (load.schemas.flatMap loaded) :=
  (OpenSource.yields_openServer hpostgres hserver).bind fun _ _ =>
    OpenSource.yields_loadSchemas fun schema hschema _ =>
      OpenSource.yields_loadSchema_server (hloads schema hschema)

/-- A snapshot of the tables of a server yields them again. -/
theorem yields_snapshot (load : LoadRequest) (hschemas : load.schemas.Nodup)
    (horderly : ∀ schema ∈ load.schemas, server.Orderly load.options schema)
    (hloads : ∀ schema ∈ load.schemas, server.getTables load.options schema = .ok (loaded schema))
    (htext : session.tree.readText path = .ok
      (Snapshot.write { engine := Server.engineName, tables := load.schemas.flatMap loaded })) :
    Yields env (loadTables { load with source := .snapshot path }) session
      (Snapshot.restoredTables Server.engineName (load.schemas.flatMap loaded)) := by
  have hconsistent := Server.consistent_flatMap hschemas horderly hloads
  have hread := Snapshot.map_read_write Server.engineName hconsistent
  obtain ⟨written, hwritten⟩ : ∃ written, Snapshot.read
      (Snapshot.write { engine := Server.engineName, tables := load.schemas.flatMap loaded }) =
        .ok (written, Snapshot.restoredTables Server.engineName (load.schemas.flatMap loaded)) := by
    cases hresult : Snapshot.read
        (Snapshot.write { engine := Server.engineName, tables := load.schemas.flatMap loaded }) with
    | error e =>
      rw [hresult] at hread
      cases hread
    | ok result =>
      rw [hresult] at hread
      exact ⟨result.1, congrArg Except.ok (Prod.ext rfl (Except.ok.inj hread))⟩
  refine (OpenSource.yields_openSnapshot htext hwritten).bind fun after _ => ?_
  rw [Server.restoredTables_flatMap]
  refine OpenSource.yields_loadSchemas fun schema hschema session => ?_
  rw [← Server.tablesOfSchema_restoredTables hschemas horderly hloads hschema,
    ← Server.restoredTables_flatMap]
  exact yields_pure _

/-- The file of a snapshot reads as the snapshot of the tables of the server. -/
theorem readText_of_snapshot {load : LoadRequest} {out : String}
    (hpostgres : Connection.isPostgres connection = true)
    (hserver : env.connect connection = some server)
    (hloads : ∀ schema ∈ load.schemas, server.getTables load.options schema = .ok (loaded schema))
    (hlog : ∀ log ∈ session.logFile, log.location ≠ session.tree.place out)
    (h : (CommandLine.snapshot ⟨{ load with source := .server connection }, out⟩).outcome env session =
      (.ok (), after)) :
    after.tree.readText out = .ok
      (Snapshot.write { engine := Server.engineName, tables := load.schemas.flatMap loaded }) := by
  unfold CommandLine.snapshot at h
  obtain ⟨opened, hopened, hsource⟩ :=
    (OpenSource.yields_openServer hpostgres hserver).outcome_bind _
  rw [show OpenSource.ofRequest { load with source := .server connection } =
    OpenSource.openServer connection from rfl, hsource] at h
  obtain ⟨found, hfound, htables⟩ := (OpenSource.yields_loadSchemas fun schema hschema _ =>
    OpenSource.yields_loadSchema_server (hloads schema hschema)).outcome_bind _
  rw [htables, outcome_bind, outcome_onTree] at h
  have hquiet := hopened.trans hfound
  generalize hwrite : writeAtomic found.tree out _ = written at h
  obtain ⟨tree, result⟩ := written
  cases result with
  | error e => cases h
  | ok u =>
    obtain ⟨hkeeps, hlocate, hfile⟩ := writeAtomic_ok hwrite
    have htext : tree.readText out = .ok _ :=
      readText_iff.mpr ⟨by rw [hkeeps.place_eq]; exact hlocate, by rw [hkeeps.place_eq]; exact hfile⟩
    obtain ⟨last, houtcome, hnoted⟩ : Yields env (event "snapshot_written"
        [("path", Json.str out), ("tables", Json.int (load.schemas.flatMap loaded).length)])
        { found with tree := tree } () := yields_event _ _ _
    obtain rfl : last = after := (Prod.mk.inj (houtcome.symm.trans h)).2
    refine hnoted.readText (fun log hmem => ?_) htext
    obtain ⟨old, hold, heq⟩ := hquiet.location hmem
    rw [← heq, hkeeps.place_eq, hquiet.keeps.place_eq]
    exact hlog old hold

end RowTypes
