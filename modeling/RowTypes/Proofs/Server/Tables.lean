import RowTypes.Proofs.Run.Bare
import RowTypes.Proofs.Schema.Consistency
import RowTypes.Proofs.Snapshot.RoundTrip
import RowTypes.Server.Basic

/-!
Tables of a server. A server that lists tables in the order of their names, each once, and columns
without repetition yields consistent table sets. A snapshot of them gives back what generation looks at
of each, in the same order, as long as a type that the catalog name leaves unknown is unknown by its
other name as well.

What is proved:
  1. `getTables_ok`: where the loaded tables come from.
  2. `consistent_flatMap`: the tables of several schemas are a consistent set.
  3. `bare_restored`: a loaded column loses nothing in a snapshot that is looked at.
  4. `tablesOfSchema_restoredTables`: the tables of a schema are found again in their order.
-/

namespace RowTypes

namespace Server

/-- What is assumed of the answers of a server about a schema. -/
structure Orderly (server : Server) (options : LoadOptions) (schema : String) : Prop where
  /-- Tables are listed in the order of their names, none of them twice. -/
  ascending : ∀ names, server.tableNames schema options.includeViews = .ok names →
    names.Pairwise (· < ·)
  /-- No two columns of a table have one name. -/
  distinct : ∀ names, server.tableNames schema options.includeViews = .ok names →
    ∀ table ∈ names, ∀ infos, server.columnInfos schema table = .ok infos →
      (infos.map ColumnInfo.name).Nodup
  /-- A type is not known by its name in the information schema alone. -/
  typed : ∀ names, server.tableNames schema options.includeViews = .ok names →
    ∀ table ∈ names, ∀ infos, server.columnInfos schema table = .ok infos → ∀ info ∈ infos,
      Engine.postgres.dataType? info.udtName = none → Engine.postgres.dataType? info.dataType = none

variable {server : Server} {options : LoadOptions} {schema name : String} {table : Table}
  {tables : List Table}

/-! ## Loading -/

theorem loadTable_ok (h : server.loadTable options schema name = .ok table) :
    ∃ infos primaryKeys foreignKeys, server.columnInfos schema name = .ok infos ∧
      table = { schema, name, columns := infos.map fun info =>
        info.toColumn primaryKeys foreignKeys options.includeComments } := by
  unfold loadTable at h
  split at h
  · cases h
  · cases h
  · next infos _ hinfos =>
    split at h
    · cases h
    · next primaryKeys _ =>
      split at h
      · cases h
      · next foreignKeys _ =>
        cases h
        exact ⟨infos, primaryKeys, foreignKeys, hinfos, rfl⟩

theorem loadTables_ok {names : List String}
    (h : server.loadTables options schema names = (tables, none)) :
    tables.map Table.name = names ∧
      ∀ table ∈ tables, server.loadTable options schema table.name = .ok table := by
  induction names generalizing tables with
  | nil =>
    cases h
    exact ⟨rfl, by simp⟩
  | cons name names ih =>
    rw [loadTables] at h
    split at h
    · cases h
    · next table htable =>
      obtain ⟨rfl, hrest⟩ := Prod.mk.inj h
      obtain ⟨hnames, htables⟩ := ih (Prod.ext rfl hrest)
      obtain ⟨infos, primaryKeys, foreignKeys, -, rfl⟩ := loadTable_ok htable
      exact ⟨by simp [hnames], List.forall_mem_cons.mpr ⟨htable, htables⟩⟩

/-- The tables of a schema are those that the server lists, each loaded by its name. -/
theorem getTables_ok (h : server.getTables options schema = .ok tables) :
    server.tableNames schema options.includeViews = .ok (tables.map Table.name) ∧
      ∀ table ∈ tables, server.loadTable options schema table.name = .ok table := by
  unfold getTables at h
  split at h
  · cases h
  · next loaded hloaded =>
    cases h
    unfold loadSchema at hloaded
    split at hloaded
    · cases hloaded
    · next names hnames =>
      obtain ⟨rfl, hfailed⟩ := Prod.mk.inj hloaded
      have hnone : (server.loadTables options schema names).2 = none := by
        simpa using hfailed
      obtain ⟨hmap, htables⟩ := loadTables_ok (Prod.ext rfl hnone)
      exact ⟨by rw [hnames, hmap], htables⟩

/-! ## Consistency -/

theorem schema_of_getTables (h : server.getTables options schema = .ok tables)
    (htable : table ∈ tables) : table.schema = schema := by
  obtain ⟨infos, primaryKeys, foreignKeys, -, heq⟩ := loadTable_ok ((getTables_ok h).2 table htable)
  rw [heq]

theorem exists_infos (h : server.getTables options schema = .ok tables) (htable : table ∈ tables) :
    ∃ infos primaryKeys foreignKeys, server.columnInfos schema table.name = .ok infos ∧
      table.columns = infos.map fun info =>
        info.toColumn primaryKeys foreignKeys options.includeComments := by
  obtain ⟨infos, primaryKeys, foreignKeys, hinfos, heq⟩ :=
    loadTable_ok ((getTables_ok h).2 table htable)
  exact ⟨infos, primaryKeys, foreignKeys, hinfos, by rw [heq]⟩

theorem Orderly.pairwise_name (h : server.Orderly options schema)
    (hload : server.getTables options schema = .ok tables) :
    tables.Pairwise fun a b => a.name < b.name :=
  List.pairwise_map.mp (h.ascending _ (getTables_ok hload).1)

theorem Orderly.consistent_table (h : server.Orderly options schema)
    (hload : server.getTables options schema = .ok tables) (htable : table ∈ tables) :
    table.Consistent := by
  obtain ⟨infos, primaryKeys, foreignKeys, hinfos, hcolumns⟩ := exists_infos hload htable
  constructor
  · rw [hcolumns, List.map_map]
    exact h.distinct _ (getTables_ok hload).1 _ (List.mem_map_of_mem htable) _ hinfos
  · intro column hcolumn
    rw [hcolumns] at hcolumn
    obtain ⟨info, -, rfl⟩ := List.mem_map.mp hcolumn
    rfl

section Schemas
variable {schemas : List String} {loaded : String → List Table}
  (hschemas : schemas.Nodup) (horderly : ∀ schema ∈ schemas, server.Orderly options schema)
  (hloads : ∀ schema ∈ schemas, server.getTables options schema = .ok (loaded schema))
include hschemas horderly hloads

/-- The tables of different schemas are a consistent set. -/
theorem consistent_flatMap : Consistent (schemas.flatMap loaded) where
  nodup := by
    rw [List.Nodup, List.pairwise_map, List.pairwise_flatMap]
    constructor
    · intro schema hschema
      refine ((horderly schema hschema).pairwise_name (hloads schema hschema)).imp ?_
      intro a b hlt heq
      have hname : a.name = b.name := congrArg Prod.snd heq
      exact String.lt_irrefl b.name (hname ▸ hlt)
    · refine hschemas.imp_of_mem fun {a b} ha hb hne x hx y hy heq => hne ?_
      rw [← schema_of_getTables (hloads a ha) hx, ← schema_of_getTables (hloads b hb) hy]
      exact congrArg Prod.fst heq
  tables table htable := by
    obtain ⟨schema, hschema, hmem⟩ := List.mem_flatMap.mp htable
    exact (horderly schema hschema).consistent_table (hloads schema hschema) hmem

end Schemas

/-! ## What a snapshot gives back -/

theorem dataType?_ne_unknown (engine : Engine) (nativeType : String) :
    engine.dataType? nativeType ≠ some .unknown := by
  intro h
  obtain ⟨entry, hentry, hkind⟩ := Option.map_eq_some_iff.mp h
  have hmem := List.mem_of_find?_eq_some hentry
  have hknown : ∀ entry ∈ engine.knownTypes, entry.1 ≠ .unknown := by
    cases engine <;> decide
  exact hknown entry hmem hkind

/-- A loaded column loses nothing in a snapshot but a reference that no key uses. -/
theorem bare_restored {info : ColumnInfo} {primaryKeys : List String}
    {foreignKeys : List ForeignKeyInfo} {includeComments : Bool}
    (h : Engine.postgres.dataType? info.udtName = none →
      Engine.postgres.dataType? info.dataType = none) :
    (Snapshot.restored (some .postgres)
      (info.toColumn primaryKeys foreignKeys includeComments)).bare =
      (info.toColumn primaryKeys foreignKeys includeComments).bare := by
  -- A snapshot restores three fields of a column: its type, the target of its key, the facts of the server.
  generalize hcolumn : info.toColumn primaryKeys foreignKeys includeComments = column
  have hkind : (Snapshot.restored (some .postgres) column).dataType = column.dataType := by
    simp only [Snapshot.restored]
    split
    · next hopen =>
      have hnone : Engine.postgres.dataType? info.udtName = none := by
        have hunknown : Engine.postgres.dataType info.udtName = .unknown := by
          simpa only [← hcolumn, ColumnInfo.toColumn] using hopen.1
        cases hkind : Engine.postgres.dataType? info.udtName with
        | none => rfl
        | some kind =>
          rw [Engine.dataType, hkind] at hunknown
          exact absurd (hkind.trans (congrArg some hunknown)) (dataType?_ne_unknown _ _)
      have hnative : column.nativeType = info.dataType := by rw [← hcolumn]; rfl
      rw [hopen.1, hnative, Engine.dataType, h hnone]
      rfl
    · rfl
  have htarget : (Snapshot.restored (some .postgres) column).bare.target = column.bare.target := by
    cases hkey : column.foreignKey with
    | false => simp [Column.bare, Snapshot.restored, hkey]
    | true =>
      have hnonempty : column.target.column ≠ "" := by
        rw [← hcolumn] at hkey ⊢
        simpa [ColumnInfo.toColumn] using hkey
      simp [Column.bare, Snapshot.restored, hkey, hnonempty]
  have hvendor : column.vendor.bind VendorFacts.known? = column.vendor := by
    rw [← hcolumn]
    rfl
  calc (Snapshot.restored (some .postgres) column).bare
      = { column with
          dataType := (Snapshot.restored (some .postgres) column).dataType
          target := (Snapshot.restored (some .postgres) column).bare.target
          vendor := column.vendor.bind VendorFacts.known? } := rfl
    _ = column.bare := by rw [hkind, htarget, hvendor]; rfl

theorem map_bare_restoredTables (horderly : server.Orderly options schema)
    (hload : server.getTables options schema = .ok tables) :
    (Snapshot.restoredTables engineName tables).map Table.bare = tables.map Table.bare := by
  rw [Snapshot.restoredTables, List.map_map]
  refine List.map_congr_left fun table htable => ?_
  obtain ⟨infos, primaryKeys, foreignKeys, hinfos, hcolumns⟩ := exists_infos hload htable
  have htyped := horderly.typed _ (getTables_ok hload).1 _ (List.mem_map_of_mem htable) _ hinfos
  have hbare : table.columns.map (Column.bare ∘ Snapshot.restored (some .postgres)) =
      table.columns.map Column.bare := by
    rw [hcolumns, List.map_map, List.map_map]
    exact List.map_congr_left fun info hinfo => bare_restored (htyped info hinfo)
  have hengine : Engine.ofName? engineName = some .postgres := rfl
  simp only [Function.comp_apply, Table.bare, List.map_map, hengine, hbare]

theorem restoredTables_flatMap (name : String) (schemas : List String)
    (loaded : String → List Table) :
    Snapshot.restoredTables name (schemas.flatMap loaded) =
      schemas.flatMap fun schema => Snapshot.restoredTables name (loaded schema) :=
  List.map_flatMap

theorem filter_flatMap_schema {schemas : List String} {loaded : String → List Table}
    (hschemas : schemas.Nodup) (hmem : schema ∈ schemas)
    (hloaded : ∀ schema ∈ schemas, ∀ table ∈ loaded schema, table.schema = schema) :
    (schemas.flatMap loaded).filter (fun table => table.schema == schema) = loaded schema := by
  have hown : ∀ other ∈ schemas, (loaded other).filter (fun table => table.schema == schema) =
      if other = schema then loaded other else [] := by
    intro other hother
    split
    · next heq =>
      exact List.filter_eq_self.mpr fun table htable => by simp [hloaded other hother table htable, heq]
    · next hne =>
      exact List.filter_eq_nil_iff.mpr fun table htable => by
        simp [hloaded other hother table htable, hne]
  rw [List.filter_flatMap]
  -- By induction on the schemas: the one that is asked for comes up once, and the others give nothing.
  induction schemas with
  | nil => cases hmem
  | cons first rest ih =>
    obtain ⟨hfirst, hrest⟩ := List.nodup_cons.mp hschemas
    obtain ⟨hfirstOwn, hrestOwn⟩ := List.forall_mem_cons.mp hown
    rw [List.flatMap_cons, hfirstOwn]
    rcases List.mem_cons.mp hmem with rfl | hmem
    · have hnil : rest.flatMap (fun other => (loaded other).filter fun table => table.schema == schema) =
          [] := by
        refine List.flatMap_eq_nil_iff.mpr fun other hother => ?_
        rw [hrestOwn other hother, if_neg (by rintro rfl; exact hfirst hother)]
      rw [if_pos rfl, hnil, List.append_nil]
    · rw [if_neg (by rintro rfl; exact hfirst hmem), List.nil_append]
      exact ih hrest hmem (fun other hother => hloaded other (List.mem_cons_of_mem _ hother)) hrestOwn

/-- A snapshot of several schemas has the tables of each in their order. -/
theorem tablesOfSchema_restoredTables {schemas : List String} {loaded : String → List Table}
    (hschemas : schemas.Nodup) (horderly : ∀ schema ∈ schemas, server.Orderly options schema)
    (hloads : ∀ schema ∈ schemas, server.getTables options schema = .ok (loaded schema))
    (hschema : schema ∈ schemas) :
    tablesOfSchema (Snapshot.restoredTables engineName (schemas.flatMap loaded)) schema =
      Snapshot.restoredTables engineName (loaded schema) := by
  have hnames : ∀ schema ∈ schemas,
      ∀ table ∈ Snapshot.restoredTables engineName (loaded schema), table.schema = schema := by
    intro schema hschema table htable
    obtain ⟨source, hmem, rfl⟩ := List.mem_map.mp htable
    change source.schema = schema
    exact schema_of_getTables (hloads schema hschema) hmem
  rw [tablesOfSchema, restoredTables_flatMap, filter_flatMap_schema hschemas hschema hnames]
  apply List.mergeSort_of_pairwise
  rw [Snapshot.restoredTables, List.pairwise_map]
  refine ((horderly schema hschema).pairwise_name (hloads schema hschema)).imp ?_
  intro a b hlt
  simpa using String.lt_asymm hlt

end Server

end RowTypes
