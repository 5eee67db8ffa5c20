import RowTypes.Proofs.CommandLine.Loading

/-!
Generating from a snapshot and from the server. A generation works on the tables that it has loaded and
on the files that it reads and writes. The tables of a server and those of a snapshot of it differ in
nothing that is looked at, so both generations come to the same report and the same files, wherever the
snapshot and the log files are, and whichever program formats the files, if it does not look at these.

What is proved:
  1. `matches_writeStructs`: what follows once tables are loaded, over tables that are bare the same.
  2. `generate_eq`: a generation makes a report and then ends.
  3. `generate_snapshot_eq_live`: the generations from a snapshot and from the server.
-/

namespace RowTypes

open Storage Storage.Tree Procedure Arguments Catalog

variable {env env' : Surroundings} {launch : Command.Launcher} {near : Location → Prop} {base : Tree}
  {cat cat' : Catalog} {selectors : List Selector} {schemas : List String} {request : GenerateRequest}

/-- The same generation with tables from somewhere else. -/
def Arguments.GenerateRequest.loadingFrom (request : GenerateRequest) (source : Source) :
    GenerateRequest :=
  { request with load := { request.load with source } }

/-! ## Stamps -/

namespace Report

variable {report report' : Report} {stamp stamp' : RunStamp} {runs : List GroupRun}

/-- The report of another run that did the same. -/
def stamped (report : Report) (stamp : RunStamp) : Report :=
  { report with stamp }

/-- Two reports, each with its stamp, that tell the same otherwise. -/
structure Restamped (stamp stamp' : RunStamp) (report report' : Report) : Prop where
  stamp : report.stamp = stamp
  same : report.stamped stamp' = report'

theorem stamped_foldl {ι : Type} {record : Report → ι → Report}
    (h : ∀ report item, (record report item).stamped stamp = record (report.stamped stamp) item)
    (items : List ι) (report : Report) :
    (items.foldl record report).stamped stamp = items.foldl record (report.stamped stamp) :=
  (List.foldl_hom (stamped · stamp) fun report item => (h report item).symm).symm

theorem stamped_record (report : Report) (run : GroupRun) :
    (GroupRun.record report run).stamped stamp = GroupRun.record (report.stamped stamp) run := by
  rw [GroupRun.record, stamped_foldl fun _ _ => rfl, stamped_foldl fun _ _ => rfl, GroupRun.record]

theorem stamped_ofRuns : (ofRuns stamp runs).stamped stamp' = ofRuns stamp' runs :=
  stamped_foldl stamped_record runs _

theorem stamp_eq_of_stamped (h : report.stamped stamp = report) : report.stamp = stamp :=
  (congrArg Report.stamp h).symm

theorem restamped_ofRuns : Restamped stamp stamp' (ofRuns stamp runs) (ofRuns stamp' runs) :=
  ⟨stamp_eq_of_stamped stamped_ofRuns, stamped_ofRuns⟩

end Report

namespace CommandLine

/-! ## After the tables are loaded -/

/-- The groups of a generation. -/
def groupsOf (cat : Catalog) (selectors : List Selector) : List FileGroup :=
  cat.fileGroups (cat.tables.filter (Selector.anySelects selectors))

theorem groupsOf_bare (cat : Catalog) (selectors : List Selector) :
    groupsOf cat.bare selectors = (groupsOf cat selectors).map FileGroup.bare := by
  have hselected : cat.bare.tables.filter (Selector.anySelects selectors) =
      (cat.tables.filter (Selector.anySelects selectors)).map Table.bare := by
    rw [bare, List.filter_map]
    rfl
  rw [groupsOf, hselected, fileGroups_bare, groupsOf]

/-- Runs over tables that are bare the same leave trees that agree, and their reports are the same for
one stamp. -/
theorem runGroups_of_bare {left right : Tree} (hbare : cat.bare = cat'.bare)
    (hwrites : ∀ group ∈ groupsOf cat selectors, WritesWithin near left group.path)
    (hformats : ∀ group ∈ groupsOf cat selectors, cat.FormatsWithin near launch group.path)
    (h : Agree near left right) (stamp : RunStamp) :
    Agree near (cat.runGroups left (groupsOf cat selectors) launch).1
        (cat'.runGroups right (groupsOf cat' selectors) launch).1 ∧
      Report.ofRuns stamp (cat.runGroups left (groupsOf cat selectors) launch).2 =
        Report.ofRuns stamp (cat'.runGroups right (groupsOf cat' selectors) launch).2 := by
  -- Both runs are taken over to the bare tables, where they run one catalog over one list of groups.
  have hgroups : (groupsOf cat selectors).map FileGroup.bare =
      (groupsOf cat' selectors).map FileGroup.bare := by
    rw [← groupsOf_bare, hbare, groupsOf_bare]
  have hleft := runGroups_bare cat left (groupsOf cat selectors) launch
  have hright := runGroups_bare cat' right (groupsOf cat' selectors) launch
  rw [← hgroups, ← hbare] at hright
  have hwritesBare : ∀ group ∈ (groupsOf cat selectors).map FileGroup.bare,
      WritesWithin near left group.path := List.forall_mem_map.mpr hwrites
  have hformatsBare : ∀ group ∈ (groupsOf cat selectors).map FileGroup.bare,
      cat.bare.FormatsWithin near launch group.path := List.forall_mem_map.mpr hformats
  obtain ⟨htree, hruns⟩ := runGroups_sameEnd h hwritesBare hformatsBare
  rw [hleft, hright] at htree hruns
  refine ⟨htree, ?_⟩
  rw [← Report.ofRuns_bare, ← Report.ofRuns_bare stamp (cat'.runGroups right _ launch).2]
  exact congrArg (Report.ofRuns stamp) hruns

theorem outcome_runTables_error {e : RunError} (hcheck : cat.check = .error e)
    (selectors : List Selector) (env : Surroundings) (session : Session) :
    (runTables cat selectors).outcome env session = (.error (.run e), session) := by
  simp only [runTables, hcheck]
  rfl

/-- A run between its notes. -/
theorem outcome_runTables (hcheck : cat.check = .ok ()) (selectors : List Selector)
    (env : Surroundings) (session : Session) :
    ∃ noted, session.Quiet noted ∧
      ∃ after, Session.Quiet
          { noted with tree := (cat.runGroups noted.tree (groupsOf cat selectors) env.launch).1 } after ∧
        (runTables cat selectors).outcome env session =
          (.ok (.ofRuns env.stamp
            (cat.runGroups noted.tree (groupsOf cat selectors) env.launch).2), after) := by
  let noted := [Journal.started cat env.stamp (groupsOf cat selectors).length].foldl
    (fun session entry => session.note env entry) session
  have hnoted : session.Quiet noted := Session.quiet_notes env _ session
  refine ⟨noted, hnoted, _, Session.quiet_notes env (Journal.ofRuns cat env.stamp
    (cat.runGroups noted.tree (groupsOf cat selectors) env.launch).2) _, ?_⟩
  simp only [runTables, Catalog.run, hcheck]
  rfl

theorem matches_runTables (hbare : cat.bare = cat'.bare) (hcheck : cat.check = cat'.check)
    (hwrites : ∀ group ∈ groupsOf cat selectors, WritesWithin near base group.path)
    (hformats : ∀ group ∈ groupsOf cat selectors, cat.FormatsWithin near env.launch group.path)
    (hlaunch : env'.launch = env.launch) :
    Matches env env' near base (Report.Restamped env.stamp env'.stamp) (runTables cat selectors)
      (runTables cat' selectors) := by
  intro left right hnear
  cases hfit : cat.check with
  | error e =>
    rw [outcome_runTables_error hfit, outcome_runTables_error (hcheck ▸ hfit)]
    exact ⟨.error _, hnear⟩
  | ok u =>
    obtain ⟨noted, hnoted, after, hafter, hrun⟩ :=
      outcome_runTables hfit selectors env left
    obtain ⟨noted', hnoted', after', hafter', hrun'⟩ :=
      outcome_runTables (hcheck ▸ hfit) selectors env' right
    rw [hlaunch] at hafter' hrun'
    have hstart := hnear.quiet hnoted hnoted'
    obtain ⟨htree, hreport⟩ := runGroups_of_bare hbare
      (fun group hgroup => (hwrites group hgroup).congr hstart.workDir) hformats hstart.tree env'.stamp
    have hwritten : Session.Near near base
        { noted with tree := (cat.runGroups noted.tree (groupsOf cat selectors) env.launch).1 }
        { noted' with tree := (cat'.runGroups noted'.tree (groupsOf cat' selectors) env.launch).1 } :=
      ⟨(cat.workDir_runGroups _ _ _).trans hstart.workDir, htree, hstart.logLeft, hstart.logRight⟩
    rw [hrun, hrun']
    exact ⟨.ok (hreport ▸ Report.restamped_ofRuns), hwritten.quiet hafter hafter'⟩

/-! ## Selectors without a table -/

theorem unmatched_bare (selectors : List Selector) (tables : List Table) :
    Selector.unmatched selectors (tables.map Table.bare) = Selector.unmatched selectors tables := by
  simp only [Selector.unmatched, List.any_map]
  rfl

theorem unmatched_of_bare {tables tables' : List Table}
    (hbare : tables.map Table.bare = tables'.map Table.bare) :
    Selector.unmatched selectors tables = Selector.unmatched selectors tables' := by
  rw [← unmatched_bare, hbare, unmatched_bare]

theorem matches_noteUnmatched {tables tables' : List Table}
    (hbare : tables.map Table.bare = tables'.map Table.bare) :
    Matches env env' near base Eq (noteUnmatched selectors tables schemas)
      (noteUnmatched selectors tables' schemas) := by
  unfold noteUnmatched
  rw [unmatched_of_bare hbare]
  exact (matches_forIn _ fun selector => matches_notes _ _).bind fun _ _ _ => matches_pure rfl

theorem restamped_recordUnmatched {tables tables' : List Table} {report report' : Report}
    {stamp stamp' : RunStamp} (h : Report.Restamped stamp stamp' report report')
    (hbare : tables.map Table.bare = tables'.map Table.bare) :
    Report.Restamped stamp stamp' (report.recordUnmatched selectors tables schemas)
      (report'.recordUnmatched selectors tables' schemas) := by
  obtain ⟨rfl, rfl⟩ := h
  have hsame : ∀ stamp, (report.recordUnmatched selectors tables schemas).stamped stamp =
      (report.stamped stamp).recordUnmatched selectors tables' schemas := by
    intro stamp
    rw [Report.recordUnmatched, Report.recordUnmatched, unmatched_of_bare hbare]
    exact Report.stamped_foldl (fun _ _ => rfl) _ _
  refine ⟨Report.stamp_eq_of_stamped ?_, hsame stamp'⟩
  rw [hsame, Report.recordUnmatched, ← unmatched_of_bare hbare]
  rfl

/-! ## A generation -/

/-- Generate the structs of tables that are loaded, up to the report. -/
def writeStructs (cat : Catalog) (request : GenerateRequest) : Procedure Report := do
  let report ← runTables cat request.selectors
  noteUnmatched request.selectors cat.tables request.load.schemas
  return report.recordUnmatched request.selectors cat.tables request.load.schemas

/-- What follows once tables are loaded comes to the same over tables that are bare the same. -/
theorem matches_writeStructs (hbare : cat.bare = cat'.bare) (hcheck : cat.check = cat'.check)
    (hwrites : ∀ group ∈ groupsOf cat request.selectors, WritesWithin near base group.path)
    (hformats : ∀ group ∈ groupsOf cat request.selectors, cat.FormatsWithin near env.launch group.path)
    (hlaunch : env'.launch = env.launch) :
    Matches env env' near base (Report.Restamped env.stamp env'.stamp) (writeStructs cat request)
      (writeStructs cat' request) := by
  have htables : cat.tables.map Table.bare = cat'.tables.map Table.bare := congrArg tables hbare
  refine (matches_runTables hbare hcheck hwrites hformats hlaunch).bind fun report report' hreport => ?_
  refine (matches_noteUnmatched htables).bind fun _ _ _ => ?_
  exact matches_pure (restamped_recordUnmatched hreport htables)

/-- The options of a generation. -/
def strictly (strict : Bool) (config : Config) : Config :=
  if strict then { config with policy := .strict } else config

/-- A generation up to its report. -/
def reported (request : GenerateRequest) : Procedure Report := do
  let config ← loadConfig request.config
  event "config_loaded" [("path", Json.str request.config),
    ("tables", Json.int (strictly request.strict config).tables.length)]
  let tables ← loadTables request.load
  writeStructs ⟨strictly request.strict config, tables⟩ request

/-- The end of a generation: the report is written if it is asked for. -/
def conclude (request : GenerateRequest) (report : Report) : Procedure Unit := do
  if let some path := request.report then
    onTree .report fun tree => report.write tree path
    event "report_written" [("path", Json.str path)]
  finish report

theorem generate_eq (request : GenerateRequest) :
    generate request = reported request >>= conclude request := by
  simp only [generate, reported, loadTables, writeStructs, strictly, bind_assoc, pure_bind]
  unfold conclude
  cases request.report <;> rfl

theorem workDir_writeReport (report : Report) (tree : Tree) (path : String) :
    (report.write tree path).1.workDir = tree.workDir := by
  unfold Report.write
  split
  · next hwrite => exact (writeAtomic_error hwrite).workDir
  · next hwrite => exact (writeAtomic_ok hwrite).1.workDir

theorem sameEnd_writeReport {left right : Tree} {path : String} (report : Report)
    (hwrites : WritesWithin near left path) (h : Agree near left right) :
    SameEnd near (report.write left path) (report.write right path) := by
  obtain ⟨htree, hresult⟩ := h.writeAtomic hwrites.covers hwrites.sibling report.toJson.pretty.toUTF8
  unfold Report.write
  generalize writeAtomic left path _ = written, writeAtomic right path _ = written' at htree hresult
  obtain ⟨tree, result⟩ := written
  obtain ⟨tree', result'⟩ := written'
  obtain rfl : result = result' := hresult
  cases result <;> exact ⟨htree, rfl⟩

theorem matches_finish {report report' : Report} {stamp stamp' : RunStamp}
    (h : Report.Restamped stamp stamp' report report') :
    Matches env env' near base Eq (finish report) (finish report') := by
  obtain ⟨-, rfl⟩ := h
  refine (matches_notes _ _).bind fun _ _ _ => ?_
  change Matches env env' near base Eq
    (if report.hasFailures then throw (.tablesFailed report.errorCount) else pure ())
    (if report.hasFailures then throw (.tablesFailed report.errorCount) else pure ())
  split
  · exact matches_throw _
  · exact matches_pure rfl

theorem matches_conclude {report report' : Report} {stamp stamp' : RunStamp}
    (h : Report.Restamped stamp stamp' report report') (hstamp : request.report = none ∨ stamp = stamp')
    (hreport : ∀ path ∈ request.report, WritesWithin near base path) :
    Matches env env' near base Eq (conclude request report) (conclude request report') := by
  unfold conclude
  cases hpath : request.report with
  | none => exact matches_finish h
  | some path =>
    obtain rfl : stamp = stamp' := hstamp.resolve_left (by simp [hpath])
    obtain ⟨rfl, rfl⟩ := h
    have hwrite : Matches env env' near base Eq (onTree .report fun tree => report.write tree path)
        (onTree .report fun tree => report.write tree path) :=
      matches_onTree (workDir_writeReport report · path) fun left right hworkDir h =>
        sameEnd_writeReport report ((hreport path hpath).congr hworkDir) h
    refine hwrite.bind fun _ _ _ => ?_
    exact (matches_notes _ _).bind fun _ _ _ => matches_finish ⟨rfl, rfl⟩

/-! ## From a server and from a snapshot -/

/-- A generation writes its files and its report by no way of what is apart, and the program that formats
the files does not look at it. -/
structure Clear (apart : Location → Prop) (tree : Tree) (cat : Catalog) (request : GenerateRequest)
    (launch : Command.Launcher) : Prop where
  report : ∀ path ∈ request.report, WritesWithin (¬apart ·) tree path
  outputs : ∀ group ∈ groupsOf cat request.selectors, WritesWithin (¬apart ·) tree group.path
  formats : ∀ group ∈ groupsOf cat request.selectors,
    cat.FormatsWithin (¬apart ·) launch group.path

theorem yields_loadConfig {session : Session} {path text : String} {config : Config}
    (htext : session.tree.readText path = .ok text) (hparse : Config.parse text = .ok config) :
    Yields env (loadConfig path) session config := by
  refine ⟨session, ?_, .refl _⟩
  rw [outcome_loadConfig, htext]
  simp only [hparse]
  rfl

/-- A generation is what follows once its options are read and its tables are loaded. -/
theorem exists_reported (env : Surroundings) (request : GenerateRequest) {session : Session}
    {text : String} {config : Config} {tables : List Table}
    (htext : session.tree.readText request.config = .ok text) (hparse : Config.parse text = .ok config)
    (hload : ∀ after, session.Quiet after → Yields env (loadTables request.load) after tables) :
    ∃ after, session.Quiet after ∧ (reported request).outcome env session =
      (writeStructs ⟨strictly request.strict config, tables⟩ request).outcome env after := by
  obtain ⟨first, hfirst, hconfig⟩ := (yields_loadConfig htext hparse).outcome_bind _
  obtain ⟨second, hsecond, hevent⟩ := (yields_event _ _ _).outcome_bind _
  obtain ⟨third, hthird, htables⟩ := (hload second (hfirst.trans hsecond)).outcome_bind _
  exact ⟨third, (hfirst.trans hsecond).trans hthird, hconfig.trans (hevent.trans htables)⟩

section Sources
variable {server : Server} {loaded : String → List Table} (hschemas : request.load.schemas.Nodup)
  (horderly : ∀ schema ∈ request.load.schemas, server.Orderly request.load.options schema)
  (hloads : ∀ schema ∈ request.load.schemas,
    server.getTables request.load.options schema = .ok (loaded schema))

include horderly hloads in
theorem bare_restoredTables (config : Config) :
    Catalog.bare ⟨config, request.load.schemas.flatMap loaded⟩ =
      Catalog.bare ⟨config, Snapshot.restoredTables Server.engineName
        (request.load.schemas.flatMap loaded)⟩ := by
  have htables : (request.load.schemas.flatMap loaded).map Table.bare =
      (Snapshot.restoredTables Server.engineName (request.load.schemas.flatMap loaded)).map
        Table.bare := by
    rw [Server.restoredTables_flatMap, List.map_flatMap, List.map_flatMap]
    exact List.flatMap_congr fun schema hschema =>
      (Server.map_bare_restoredTables (horderly schema hschema) (hloads schema hschema)).symm
  simp only [Catalog.bare, htables]

include hschemas horderly hloads in
theorem check_restoredTables (config : Config) :
    Catalog.check ⟨config, request.load.schemas.flatMap loaded⟩ =
      Catalog.check ⟨config, Snapshot.restoredTables Server.engineName
        (request.load.schemas.flatMap loaded)⟩ := by
  have hconsistent := Server.consistent_flatMap hschemas horderly hloads
  have hrestored := Snapshot.consistent_restoredTables Server.engineName hconsistent
  simp only [Catalog.check, checkTables_eq_ok_iff.mpr hconsistent,
    checkTables_eq_ok_iff.mpr hrestored]

end Sources

/-- A generation from a snapshot of the tables of a server comes to the same as one from the server:
the same report but for its stamp, and the same files but for those that are apart, such as the snapshot
and the log files. Both start the same programs, which do not look at what is apart. -/
theorem generate_snapshot_eq_live {connection out text : String} {server : Server} {config : Config}
    {loaded : String → List Table} {taking live restoring : Surroundings}
    {before written onServer onSnapshot : Session} {apart : Location → Prop}
    (hpostgres : Connection.isPostgres connection = true)
    (htaking : taking.connect connection = some server)
    (hlive : live.connect connection = some server)
    (hschemas : request.load.schemas.Nodup)
    (horderly : ∀ schema ∈ request.load.schemas, server.Orderly request.load.options schema)
    (hloads : ∀ schema ∈ request.load.schemas,
      server.getTables request.load.options schema = .ok (loaded schema))
    (hbefore : ∀ log ∈ before.logFile, log.location ≠ before.tree.place out)
    (hsnapshot : (snapshot ⟨{ request.load with source := .server connection }, out⟩).outcome taking
      before = (.ok (), written))
    (hsame : onSnapshot.tree.readText out = written.tree.readText out)
    (hlog : ∀ log ∈ onSnapshot.logFile, log.location ≠ onSnapshot.tree.place out)
    (hnear : Session.Near (¬apart ·) onServer.tree onServer onSnapshot)
    (hreads : Covers (¬apart ·) onServer.tree request.config)
    (htext : onServer.tree.readText request.config = .ok text)
    (hparse : Config.parse text = .ok config)
    (hclear : Clear apart onServer.tree
      ⟨strictly request.strict config, request.load.schemas.flatMap loaded⟩ request live.launch)
    (hlaunch : restoring.launch = live.launch) :
    checkTables (request.load.schemas.flatMap loaded) = .ok () ∧
      (∀ atServer atSnapshot,
        (reported (request.loadingFrom (.server connection))).outcome live onServer = atServer →
        (reported (request.loadingFrom (.snapshot out))).outcome restoring onSnapshot = atSnapshot →
        Alike (Report.Restamped live.stamp restoring.stamp) atServer.1 atSnapshot.1 ∧
          Agree (¬apart ·) atServer.2.tree atSnapshot.2.tree) ∧
      (request.report = none ∨ live.stamp = restoring.stamp →
        ∀ atServer atSnapshot,
          (generate (request.loadingFrom (.server connection))).outcome live onServer = atServer →
          (generate (request.loadingFrom (.snapshot out))).outcome restoring onSnapshot =
            atSnapshot →
          atServer.1 = atSnapshot.1 ∧ Agree (¬apart ·) atServer.2.tree atSnapshot.2.tree) := by
  have hconsistent := Server.consistent_flatMap hschemas horderly hloads
  have hsnapshotText := (readText_of_snapshot hpostgres htaking hloads hbefore hsnapshot)
  rw [← hsame] at hsnapshotText
  have htext' : onSnapshot.tree.readText request.config = .ok text :=
    hnear.tree.readText hreads ▸ htext
  obtain ⟨loadedLive, hquiet, hfromServer⟩ :=
    exists_reported live (request.loadingFrom (.server connection)) htext hparse
      fun _ _ => yields_server request.load hpostgres hlive hloads
  obtain ⟨loadedAgain, hquiet', hfromSnapshot⟩ :=
    exists_reported restoring (request.loadingFrom (.snapshot out)) htext' hparse
      fun _ hafter => yields_snapshot request.load hschemas horderly hloads
        (hafter.readText hlog hsnapshotText)
  have hmatches : Matches live restoring (¬apart ·) onServer.tree
      (Report.Restamped live.stamp restoring.stamp) _ _ :=
    matches_writeStructs (bare_restoredTables horderly hloads _)
      (check_restoredTables hschemas horderly hloads _) hclear.outputs hclear.formats
      hlaunch
  have hreported := hmatches loadedLive loadedAgain (hnear.quiet hquiet hquiet')
  refine ⟨checkTables_eq_ok_iff.mpr hconsistent, ?_, ?_⟩
  · rintro _ _ rfl rfl
    rw [hfromServer, hfromSnapshot]
    exact ⟨hreported.1, hreported.2.tree⟩
  · rintro hstamp _ _ rfl rfl
    have hends := (hmatches.bind fun report report' hreport =>
      matches_conclude hreport hstamp hclear.report) loadedLive loadedAgain (hnear.quiet hquiet hquiet')
    rw [outcome_bind, outcome_bind] at hends
    rw [generate_eq, generate_eq, outcome_bind, outcome_bind, hfromServer, hfromSnapshot]
    exact ⟨hends.1.eq, hends.2.tree⟩

/-! ## A library -/

/-- A server with two tables, one of which refers to the other. -/
def libraryServer : Server where
  tables _ _ := .ok [some "authors", some "books"]
  columns _ table := .ok <|
    if table = "authors" then
      [{ name := some "id", dataType := some "bigint", udtName := some "int8", nullable := some false }]
    else
      [{ name := some "title", dataType := some "text", udtName := some "text",
          nullable := some false },
        { name := some "author", dataType := some "bigint", udtName := some "int8",
          nullable := some true }]
  primaryKeys _ table := .ok (if table = "authors" then [some "id"] else [])
  foreignKeys _ table := .ok <|
    if table = "authors" then []
    else
      [{ column := some "author", schema := some "public", table := some "authors",
          target := some "id" }]

def libraryTables (schema : String) : List Table :=
  (libraryServer.getTables {} schema).toOption.getD []

def librarySurroundings (id : String) : Surroundings where
  time := ""
  stamp := ⟨id, ""⟩
  connect _ := some libraryServer
  launch := Shell.launch

def libraryRequest : GenerateRequest where
  config := "library.toml"
  load := { source := .server "postgres://library", schemas := ["public"], options := {} }
  selectors := []
  strict := false
  report := none

def libraryOptions : String :=
  "namespace = \"models\"\nformatter = [\"true\"]"

def libraryConfig : Config :=
  { packageName := "models", formatter := some ["true"] }

def libraryTree : Tree :=
  Tree.fresh.put ["work", "library.toml"] (.file libraryOptions.toUTF8)

/-- The library after a snapshot was taken. -/
def librarySnapshot : Except CommandError Unit × Session :=
  (snapshot ⟨{ libraryRequest.load with source := .server "postgres://library" }, "library.json"⟩).outcome
    (librarySurroundings "1") { tree := libraryTree }

theorem orderly_library : libraryServer.Orderly {} "public" := by
  have hnames : ∀ names, libraryServer.tableNames "public" true = .ok names →
      names = ["authors", "books"] := by
    intro names hlisted
    exact (Except.ok.inj hlisted).symm
  constructor
  · intro names hlisted
    rw [hnames names hlisted]
    decide
  · intro names hlisted table htable infos hinfos
    rw [hnames names hlisted, List.mem_pair] at htable
    rcases htable with rfl | rfl <;> cases hinfos <;> decide
  · intro names hlisted table htable infos hinfos
    rw [hnames names hlisted, List.mem_pair] at htable
    rcases htable with rfl | rfl <;> cases hinfos <;> decide

theorem near_librarySnapshot : Session.Near (¬ · = ["work", "library.json"]) libraryTree
    { tree := libraryTree } { tree := librarySnapshot.2.tree } := by
  obtain ⟨content, htree⟩ : ∃ content, librarySnapshot.2.tree =
      libraryTree.put ["work", "library.json"] (.file content) := ⟨_, rfl⟩
  rw [htree]
  exact ⟨rfl, ⟨rfl, fun loc hloc => (get?_put_of_ne _ _ hloc).symm⟩, nofun, nofun⟩

theorem clear_library : Clear (· = ["work", "library.json"]) libraryTree
    ⟨libraryConfig, ["public"].flatMap libraryTables⟩ libraryRequest Shell.launch where
  report := nofun
  outputs := by decide +kernel
  formats _ _ program arguments hformatter := by
    obtain ⟨rfl, rfl⟩ : program = "true" ∧ arguments = [] := by
      simpa [libraryConfig, eq_comm] using hformatter
    exact fun left right hagree => .ok ⟨rfl, rfl, hagree⟩

theorem generate_snapshot_eq_live_library :
    librarySnapshot.1 = .ok () ∧
      ((reported libraryRequest).outcome (librarySurroundings "2")
          { tree := libraryTree }).1.toOption.map (fun report =>
        report.tables.map TableReport.outcome) = some [.created, .created] ∧
      ∀ atServer atSnapshot,
        (generate (libraryRequest.loadingFrom (.server "postgres://library"))).outcome
          (librarySurroundings "2") { tree := libraryTree } = atServer →
        (generate (libraryRequest.loadingFrom (.snapshot "library.json"))).outcome
          (librarySurroundings "3") { tree := librarySnapshot.2.tree } = atSnapshot →
        atServer.1 = atSnapshot.1 ∧
          Agree (¬ · = ["work", "library.json"]) atServer.2.tree atSnapshot.2.tree := by
  have htaken : librarySnapshot = (.ok (), librarySnapshot.2) := Prod.ext rfl rfl
  have hread : libraryTree.readText "library.toml" = .ok libraryOptions :=
    readText_iff.mpr ⟨rfl, rfl⟩
  have horderly : ∀ schema ∈ ["public"], libraryServer.Orderly {} schema :=
    List.forall_mem_singleton.mpr orderly_library
  have hloads : ∀ schema ∈ ["public"],
      libraryServer.getTables {} schema = .ok (libraryTables schema) :=
    List.forall_mem_singleton.mpr rfl
  refine ⟨rfl, by decide +kernel, ?_⟩
  -- what the snapshot left is not to be computed again
  have hnear := near_librarySnapshot
  generalize hsnapshot : librarySnapshot = taken at htaken hnear
  obtain ⟨ended, written⟩ := taken
  obtain rfl : ended = .ok () := congrArg Prod.fst htaken
  have hboth := @generate_snapshot_eq_live libraryRequest "postgres://library" "library.json"
    libraryOptions libraryServer libraryConfig libraryTables
    (librarySurroundings "1") (librarySurroundings "2") (librarySurroundings "3")
    { tree := libraryTree } written { tree := libraryTree } { tree := written.tree }
    (· = ["work", "library.json"]) (by decide) rfl rfl (by decide) horderly hloads nofun hsnapshot
    rfl nofun hnear (by decide) hread (by decide +kernel) clear_library
    rfl
  exact hboth.2.2 (.inl rfl)

end CommandLine

end RowTypes
