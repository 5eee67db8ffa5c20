import RowTypes.Proofs.Server.Tables

/-!
Which schemas are loaded. A schema is loaded table by table, and a table of which the server knows no
columns is an error like any other. So a server that answers every query has each table with column rows
to offer by its name, but a schema only if all tables that it lists have some.

What is proved:
  1. `exists_readRows`: an answer without nulls is read row by row.
  2. `loadTable_cases`: a table is loaded unless the server knows no columns of it.
  3. `getTables_of_forall`, `getTables_first`: how loading a schema ends.
  4. `getTables_complete_iff`: exactly when a schema is loaded, and with which tables.
  5. `getTables_blocked`: a table without columns that keeps another from being loaded.
-/

namespace RowTypes

/-- No required field of the row is null. -/
structure ColumnRow.IsComplete (row : ColumnRow) : Prop where
  name : row.name.isSome
  dataType : row.dataType.isSome
  udtName : row.udtName.isSome
  nullable : row.nullable.isSome

/-- No field of the row is null. -/
structure ForeignKeyRow.IsComplete (row : ForeignKeyRow) : Prop where
  column : row.column.isSome
  schema : row.schema.isSome
  table : row.table.isSome
  target : row.target.isSome

namespace Server

/-- The query does not fail, and all rows of its answer have a property. -/
def Answered {ρ : Type} (complete : ρ → Prop) (answer : Except String (List ρ)) : Prop :=
  ∃ rows, answer = .ok rows ∧ ∀ row ∈ rows, complete row

/-- No query about the schema fails, and no required field is null. -/
structure Answers (server : Server) (options : LoadOptions) (schema : String) : Prop where
  tables : Answered (fun name => name.isSome) (server.tables schema options.includeViews)
  columns : ∀ table, Answered ColumnRow.IsComplete (server.columns schema table)
  primaryKeys : ∀ table, Answered (fun name => name.isSome) (server.primaryKeys schema table)
  foreignKeys : ∀ table, Answered ForeignKeyRow.IsComplete (server.foreignKeys schema table)

variable {server : Server} {options : LoadOptions} {schema name : String} {names : List String}
  {tables : List Table}

/-! ## Rows -/

theorem exists_requireField {α : Type} (field : String) {value : Option α} (h : value.isSome) :
    ∃ found, requireField field value = .ok found := by
  obtain ⟨found, rfl⟩ := Option.isSome_iff_exists.mp h
  exact ⟨found, rfl⟩

theorem requireField_eq_ok {α : Type} {field : String} {value : Option α} {found : α}
    (h : requireField field value = .ok found) : value = some found := by
  cases value with
  | none => cases h
  | some value => exact congrArg some (Except.ok.inj h)

theorem exists_readColumn {row : ColumnRow} (h : row.IsComplete) : ∃ info, row.read = .ok info := by
  obtain ⟨_, hname⟩ := exists_requireField "name" h.name
  obtain ⟨_, hdataType⟩ := exists_requireField "data_type" h.dataType
  obtain ⟨_, hudtName⟩ := exists_requireField "udt_name" h.udtName
  obtain ⟨_, hnullable⟩ := exists_requireField "is_nullable" h.nullable
  rw [ColumnRow.read, hname, hdataType, hudtName, hnullable]
  exact ⟨_, rfl⟩

theorem exists_readForeignKey {row : ForeignKeyRow} (h : row.IsComplete) :
    ∃ info, row.read = .ok info := by
  obtain ⟨_, hcolumn⟩ := exists_requireField "column_name" h.column
  obtain ⟨_, hschema⟩ := exists_requireField "referenced_schema" h.schema
  obtain ⟨_, htable⟩ := exists_requireField "referenced_table" h.table
  obtain ⟨_, htarget⟩ := exists_requireField "referenced_column" h.target
  rw [ForeignKeyRow.read, hcolumn, hschema, htable, htarget]
  exact ⟨_, rfl⟩

/-- An answer is read if each of its rows is. -/
theorem exists_readRows {ρ α : Type} {complete : ρ → Prop} {answer : Except String (List ρ)}
    {read : ρ → Except QueryFailure α} (h : Answered complete answer)
    (hread : ∀ row, complete row → ∃ value, read row = .ok value) :
    ∃ rows values, answer = .ok rows ∧ readRows read answer = .ok values ∧
      List.Forall₂ (fun row value => read row = .ok value) rows values := by
  obtain ⟨rows, rfl, hrows⟩ := h
  suffices hvalues : ∃ values, rows.mapM read = .ok values ∧
      List.Forall₂ (fun row value => read row = .ok value) rows values by
    obtain ⟨values, hvalues, hall⟩ := hvalues
    exact ⟨rows, values, rfl, hvalues, hall⟩
  induction rows with
  | nil => exact ⟨[], rfl, .nil⟩
  | cons row rows ih =>
    obtain ⟨hrow, hrest⟩ := List.forall_mem_cons.mp hrows
    obtain ⟨value, hvalue⟩ := hread row hrow
    obtain ⟨values, hvalues, hall⟩ := ih hrest
    refine ⟨value :: values, ?_, .cons hvalue hall⟩
    rw [List.mapM_cons, hvalue]
    show (rows.mapM read >>= fun values => pure (value :: values)) = _
    rw [hvalues]
    rfl

/-! ## Tables -/

/-- A table is loaded unless the server knows no columns of it. -/
theorem loadTable_cases (h : server.Answers options schema) (name : String) :
    (server.columns schema name ≠ .ok [] ∧ ∃ table, server.loadTable options schema name = .ok table) ∨
      (server.columns schema name = .ok [] ∧ server.loadTable options schema name = .error .noColumns) := by
  obtain ⟨rows, infos, hrows, hinfos, hread⟩ := exists_readRows (h.columns name) fun _ => exists_readColumn
  obtain ⟨-, primaryKeys, -, hprimary, -⟩ :=
    exists_readRows (h.primaryKeys name) fun _ => exists_requireField "name"
  obtain ⟨-, foreignKeys, -, hforeign, -⟩ :=
    exists_readRows (h.foreignKeys name) fun _ => exists_readForeignKey
  unfold loadTable columnInfos primaryKeyNames foreignKeyInfos
  rw [hinfos, hprimary, hforeign, hrows]
  cases hread with
  | nil => exact .inr ⟨rfl, rfl⟩
  | cons => exact .inl ⟨by simp, _, rfl⟩

theorem getTable_eq_ok_iff {table : Table} : server.getTable options schema name = .ok table ↔
    server.loadTable options schema name = .ok table := by
  cases hload : server.loadTable options schema name <;> simp [getTable, hload, Except.mapError]

theorem loadTables_of_forall
    (h : ∀ name ∈ names, ∃ table, server.loadTable options schema name = .ok table) :
    ∃ tables, server.loadTables options schema names = (tables, none) := by
  induction names with
  | nil => exact ⟨[], rfl⟩
  | cons name names ih =>
    obtain ⟨⟨table, htable⟩, hrest⟩ := List.forall_mem_cons.mp h
    obtain ⟨tables, htables⟩ := ih hrest
    exact ⟨table :: tables, by rw [loadTables, htable]; simp only [htables]⟩

/-- Loading some tables ends with the first that fails. -/
theorem loadTables_first {pre : List String} {failure : TableFailure}
    (hpre : ∀ other ∈ pre, ∃ table, server.loadTable options schema other = .ok table)
    (hname : server.loadTable options schema name = .error failure) (post : List String) :
    (server.loadTables options schema (pre ++ name :: post)).2 = some ⟨name, failure⟩ := by
  induction pre with
  | nil => rw [List.nil_append, loadTables, hname]
  | cons other pre ih =>
    obtain ⟨⟨table, htable⟩, hrest⟩ := List.forall_mem_cons.mp hpre
    rw [List.cons_append, loadTables, htable]
    exact ih hrest

/-! ## Schemas -/

theorem exists_tableNames (h : server.Answers options schema) :
    ∃ names, server.tables schema options.includeViews = .ok (names.map some) ∧
      server.tableNames schema options.includeViews = .ok names := by
  obtain ⟨rows, names, hrows, hnames, hread⟩ := exists_readRows h.tables fun _ => exists_requireField "name"
  have hsome : List.Forall₂ (· = ·) rows (names.map some) :=
    List.forall₂_map_right_iff.mpr (hread.imp fun _ _ => requireField_eq_ok)
  rw [List.forall₂_eq_eq_eq] at hsome
  exact ⟨names, hsome ▸ hrows, hnames⟩

theorem getTables_of_forall (hnames : server.tableNames schema options.includeViews = .ok names)
    (h : ∀ name ∈ names, ∃ table, server.loadTable options schema name = .ok table) :
    ∃ tables, server.getTables options schema = .ok tables := by
  obtain ⟨tables, htables⟩ := loadTables_of_forall h
  refine ⟨tables, ?_⟩
  simp only [getTables, loadSchema, hnames, htables, Option.map_none]

/-- A schema is not loaded if the server knows no columns of a table that it lists. -/
theorem getTables_first {pre post : List String}
    (hnames : server.tableNames schema options.includeViews = .ok (pre ++ name :: post))
    (hpre : ∀ other ∈ pre, ∃ table, server.loadTable options schema other = .ok table)
    (hname : server.loadTable options schema name = .error .noColumns) :
    server.getTables options schema = .error (.introspection (.tableGone schema name)) := by
  have hfirst := loadTables_first hpre hname post
  simp only [getTables, loadSchema, hnames, hfirst, Option.map_some]
  rfl

/-- Of a server that answers every query, each table with column rows is loaded by its name. The schema is
loaded iff all tables that the server lists have some; then these are the tables, in the order in which
they are listed, each as it is loaded by its name. Else the first listed table without column rows is the
error, and none of the others is loaded. -/
theorem getTables_complete_iff (h : server.Answers options schema) :
    ∃ names, server.tables schema options.includeViews = .ok (names.map some) ∧
      (∀ name, (∃ table, server.getTable options schema name = .ok table ∧ table.name = name) ↔
        server.columns schema name ≠ .ok []) ∧
      ((∃ tables, server.getTables options schema = .ok tables) ↔
        ∀ name ∈ names, server.columns schema name ≠ .ok []) ∧
      (∀ tables, server.getTables options schema = .ok tables → tables.map Table.name = names ∧
        ∀ table ∈ tables, server.getTable options schema table.name = .ok table) ∧
      ∀ pre name post, names = pre ++ name :: post →
        (∀ other ∈ pre, server.columns schema other ≠ .ok []) → server.columns schema name = .ok [] →
          server.getTables options schema = .error (.introspection (.tableGone schema name)) := by
  obtain ⟨names, hlisted, hnames⟩ := exists_tableNames h
  have hload (name : String) : (∃ table, server.loadTable options schema name = .ok table) ↔
      server.columns schema name ≠ .ok [] := by
    rcases loadTable_cases h name with ⟨hcolumns, hok⟩ | ⟨hcolumns, herror⟩
    · exact iff_of_true hok hcolumns
    · simp [hcolumns, herror]
  have htables (tables : List Table) (hget : server.getTables options schema = .ok tables) :
      tables.map Table.name = names ∧
        ∀ table ∈ tables, server.loadTable options schema table.name = .ok table := by
    obtain ⟨hmap, hloaded⟩ := getTables_ok hget
    rw [hnames] at hmap
    exact ⟨(Except.ok.inj hmap).symm, hloaded⟩
  refine ⟨names, hlisted, fun name => ?_, ⟨?_, ?_⟩, ?_, ?_⟩
  · rw [← hload]
    constructor
    · rintro ⟨table, htable, -⟩
      exact ⟨table, getTable_eq_ok_iff.mp htable⟩
    · rintro ⟨table, htable⟩
      obtain ⟨infos, primaryKeys, foreignKeys, -, rfl⟩ := loadTable_ok htable
      exact ⟨_, getTable_eq_ok_iff.mpr htable, rfl⟩
  · rintro ⟨tables, hget⟩ name hname
    obtain ⟨rfl, hloaded⟩ := htables tables hget
    obtain ⟨table, htable, rfl⟩ := List.mem_map.mp hname
    exact (hload _).mp ⟨table, hloaded table htable⟩
  · intro hcolumns
    exact getTables_of_forall hnames fun name hname => (hload name).mpr (hcolumns name hname)
  · intro tables hget
    obtain ⟨hmap, hloaded⟩ := htables tables hget
    exact ⟨hmap, fun table htable => getTable_eq_ok_iff.mpr (hloaded table htable)⟩
  · rintro pre name post rfl hpre hname
    apply getTables_first hnames fun other hother => (hload other).mpr (hpre other hother)
    rcases loadTable_cases h name with ⟨hcolumns, -⟩ | ⟨-, herror⟩
    · exact absurd hname hcolumns
    · exact herror

/-! ## A server without keys -/

/-- A server with these tables, each with its columns, and without keys. -/
def keyless (tables : List (String × List ColumnRow)) : Server where
  tables _ _ := .ok (tables.map fun (name, _) => some name)
  columns _ name := .ok ((tables.lookup name).getD [])
  primaryKeys _ _ := .ok []
  foreignKeys _ _ := .ok []

/-- A row about a column of integers. -/
def countRow (name : String) : ColumnRow :=
  { name := some name, dataType := some "integer", udtName := some "int4", nullable := some false }

theorem answers_keyless {tables : List (String × List ColumnRow)}
    (h : ∀ table ∈ tables, ∀ row ∈ table.2, row.IsComplete) : (keyless tables).Answers options schema where
  tables := by
    refine ⟨_, rfl, fun row hrow => ?_⟩
    obtain ⟨table, -, rfl⟩ := List.mem_map.mp hrow
    rfl
  columns name := by
    refine ⟨_, rfl, ?_⟩
    cases hfound : tables.lookup name with
    | none => simp
    | some rows =>
      obtain ⟨before, after, rfl, -⟩ := List.lookup_eq_some_iff.mp hfound
      exact h (name, rows) (by simp)
  primaryKeys _ := ⟨[], rfl, by simp⟩
  foreignKeys _ := ⟨[], rfl, by simp⟩

theorem isComplete_countRow (name : String) : (countRow name).IsComplete :=
  ⟨rfl, rfl, rfl, rfl⟩

/-- Two tables with columns. -/
def filled : Server :=
  keyless [("orders", [countRow "id", countRow "user_id"]), ("users", [countRow "id"])]

theorem getTables_complete_filled : filled.Answers {} "app" ∧
    ∃ tables, filled.getTables {} "app" = .ok tables ∧ tables.map Table.name = ["orders", "users"] := by
  have hanswers : filled.Answers {} "app" := answers_keyless (by simp [isComplete_countRow])
  obtain ⟨names, hnames, -, hiff, htables, -⟩ := getTables_complete_iff hanswers
  have hlisted : names.map some = ["orders", "users"].map some := (Except.ok.inj hnames).symm
  obtain rfl : names = ["orders", "users"] := (List.map_inj_right fun _ _ => Option.some.inj).mp hlisted
  obtain ⟨tables, hget⟩ := hiff.mpr (by decide)
  exact ⟨hanswers, tables, hget, (htables tables hget).1⟩

/-- A table without columns, which is listed before another one. -/
def gapped : Server :=
  keyless [("drafts", []), ("users", [countRow "id"])]

/-- The table without columns keeps the other one from being loaded with the schema. -/
theorem getTables_blocked : gapped.Answers {} "app" ∧
    gapped.tables "app" true = .ok [some "drafts", some "users"] ∧
    (∃ table, gapped.getTable {} "app" "users" = .ok table) ∧
    ¬∃ tables, gapped.getTables {} "app" = .ok tables := by
  refine ⟨answers_keyless (by simp [isComplete_countRow]), rfl, ⟨_, rfl⟩, ?_⟩
  rintro ⟨tables, htables⟩
  have herror : gapped.getTables {} "app" = .error (.introspection (.tableGone "app" "drafts")) := rfl
  rw [herror] at htables
  cases htables

end Server

end RowTypes
