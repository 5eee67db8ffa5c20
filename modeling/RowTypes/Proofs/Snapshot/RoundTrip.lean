import RowTypes.Proofs.Schema.Consistency
import RowTypes.Proofs.Schema.Written
import RowTypes.Snapshot

/-!
Snapshots give back the table set that was written, whatever texts it holds. They leave out what no
reader of a table set asks for, and they fill in data types that were left open.

What is proved:
  1. `parse?_write`: the text of a snapshot is read as the snapshot, column by column.
  2. `complete_written`: what completing a column adds to what is read of it.
  3. `read_write_restores`: a consistent table set is read as `restoredTables`, and so is what was read.
-/

namespace RowTypes

open Json

namespace Snapshot

/-- The column that stands where a snapshot of the system wrote this one: an open data type follows
from the native type, facts of unknown systems are gone, and a reference that names neither a table
nor a column is the empty one. -/
def restored (engine : Option Engine) (column : Column) : Column :=
  { column with
    dataType :=
      if column.dataType = .unknown ∧ column.nativeType ≠ "" then
        match engine with
        | some engine => engine.dataType column.nativeType
        | none => .unknown
      else column.dataType
    target := if column.target.table = "" ∧ column.target.column = "" then {} else column.target
    vendor := column.vendor.bind VendorFacts.known? }

/-- The tables with all columns restored, in their order. -/
def restoredTables (engine : String) (tables : List Table) : List Table :=
  tables.map fun table =>
    { table with columns := table.columns.map (restored (Engine.ofName? engine)) }

variable {engine : Option Engine} {column : Column} {tables : List Table}

/-! ## The text of a snapshot -/

theorem plain_toJson (snapshot : Snapshot) : Plain snapshot.toJson := by
  have htables : ∀ table ∈ snapshot.tables, Plain (table.toJsonWith Column.toSharedJson) :=
    fun table _ => table.plain_toJsonWith fun column =>
      (column.written_toSharedJson 0).plain
  refine .object ?_
  rw [List.forall_mem_cons, List.forall_mem_cons, List.forall_mem_singleton]
  exact ⟨.str _, .str _, .array (by simpa using htables)⟩

theorem ofJson?_toJson (snapshot : Snapshot) :
    ofJson? snapshot.toJson = some { snapshot with
      tables := snapshot.tables.map fun table =>
        { table with columns := table.columns.map Column.written } } := by
  have hfields : record? ["snapshot_version", "engine", "tables"] snapshot.toJson =
      some [("snapshot_version", str snapshot.version), ("engine", str snapshot.engine),
        ("tables", .array (snapshot.tables.map (Table.toJsonWith Column.toSharedJson)))] :=
    record?_of_sublist (.refl _) (by decide)
  have htables : asList? (Table.readWith? (Column.readShared? columnLevels))
      (.array (snapshot.tables.map (Table.toJsonWith Column.toSharedJson))) =
        some (snapshot.tables.map fun table =>
          { table with columns := table.columns.map Column.written }) :=
    asList?_map (Table.readWith?_toJsonWith fun column => column.readShared?_toSharedJson)
      snapshot.tables
  rw [ofJson?, hfields]
  simp only [Option.bind_eq_bind, Option.bind_some]
  rw [Record.optional_str rfl, Record.required_str rfl, Record.required_of_lookup rfl htables]
  rfl

/-- The text of a snapshot is read as the snapshot with its columns as they are written. -/
theorem parse?_write (snapshot : Snapshot) :
    parse? snapshot.write = some { snapshot with
      tables := snapshot.tables.map fun table =>
        { table with columns := table.columns.map Column.written } } := by
  rw [parse?, write, parse?_pretty snapshot.plain_toJson, Option.bind_some, ofJson?_toJson]

/-! ## Completed columns -/

theorem leavesTypeOpen_iff :
    leavesTypeOpen column = true ↔ column.dataType = .unknown ∧ column.nativeType ≠ "" := by
  simp [leavesTypeOpen]

theorem target_isEmpty_iff :
    column.target.isEmpty = true ↔ column.target.table = "" ∧ column.target.column = "" := by
  simp [Reference.isEmpty]

theorem written_target : column.written.target =
    if column.target.table = "" ∧ column.target.column = "" then {} else column.target :=
  if_congr target_isEmpty_iff rfl rfl

theorem restored_target_column (engine : Option Engine) (column : Column) :
    (restored engine column).target.column = column.target.column := by
  simp only [restored]
  split
  · next hempty => exact hempty.2.symm
  · rfl

/-- A column whose flag fits loses nothing but what `restored` leaves out. -/
theorem complete_written (h : column.FlagFits) :
    complete engine column.written = restored engine column := by
  have hkind : (complete engine column.written).dataType = (restored engine column).dataType :=
    if_congr leavesTypeOpen_iff rfl rfl
  have hflag : (!column.written.target.column.isEmpty) = column.foreignKey := by
    rw [h, written_target]
    exact congrArg (fun s : String => !s.isEmpty) (restored_target_column engine column)
  calc complete engine column.written
      = { column.written with
          dataType := (complete engine column.written).dataType
          foreignKey := !column.written.target.column.isEmpty } := rfl
    _ = { column.written with dataType := (restored engine column).dataType } := by
      rw [hkind, hflag]; rfl
    _ = restored engine column := by simp only [restored, Column.written, target_isEmpty_iff]

theorem flagFits_restored (h : column.FlagFits) : (restored engine column).FlagFits := by
  rw [Column.FlagFits, restored_target_column]
  exact h

/-- What was restored once is restored for good, also a type that nothing is known of. -/
theorem restored_restored : restored engine (restored engine column) = restored engine column := by
  have hkind : (restored engine (restored engine column)).dataType =
      (restored engine column).dataType := by
    by_cases hopen : column.dataType = .unknown ∧ column.nativeType ≠ ""
    · cases engine <;> simp [restored, hopen]
    · simp [restored, hopen]
  have htarget : (restored engine (restored engine column)).target =
      (restored engine column).target := by
    by_cases hempty : column.target.table = "" ∧ column.target.column = "" <;>
      simp [restored, hempty]
  have hvendor : (restored engine column).vendor.bind VendorFacts.known? =
      (restored engine column).vendor := by
    simp only [restored]
    rcases column.vendor with _ | _ | _ | _ <;> rfl
  calc restored engine (restored engine column)
      = { restored engine column with
          dataType := (restored engine (restored engine column)).dataType
          target := (restored engine (restored engine column)).target
          vendor := (restored engine column).vendor.bind VendorFacts.known? } := rfl
    _ = restored engine column := by rw [hkind, htarget, hvendor]

/-! ## Table sets -/

theorem completeTables_written {name : String} (h : Consistent tables) :
    completeTables { engine := name, tables := tables.map fun table =>
      { table with columns := table.columns.map Column.written } } = restoredTables name tables := by
  rw [completeTables, restoredTables, List.map_map]
  refine List.map_congr_left fun table htable => ?_
  have hcolumns : table.columns.map (complete (Engine.ofName? name) ∘ Column.written) =
      table.columns.map (restored (Engine.ofName? name)) :=
    List.map_congr_left fun column hcolumn =>
      complete_written ((h.tables table htable).flagFits column hcolumn)
  simp [hcolumns]

theorem consistent_restoredTables (name : String) (h : Consistent tables) :
    Consistent (restoredTables name tables) :=
  h.map_columns (fun _ => rfl) fun table htable column hcolumn =>
    flagFits_restored ((h.tables table htable).flagFits column hcolumn)

theorem restoredTables_restoredTables {name : String} :
    restoredTables name (restoredTables name tables) = restoredTables name tables := by
  rw [restoredTables, restoredTables, List.map_map]
  refine List.map_congr_left fun table _ => ?_
  have hcolumns : restored (Engine.ofName? name) ∘ restored (Engine.ofName? name) =
      restored (Engine.ofName? name) := funext fun _ => restored_restored
  simp only [Function.comp_apply, List.map_map, hcolumns]

theorem map_read_write (name : String) (h : Consistent tables) :
    (read (write { engine := name, tables })).map Prod.snd = .ok (restoredTables name tables) := by
  have hchecked := checkTables_eq_ok_iff.2 (consistent_restoredTables name h)
  rw [read, parse?_write]
  simp only [tableSet, completeTables_written h, hchecked]
  rfl

/-- A consistent table set that is written as a snapshot of a system is read again: the same tables
with the same columns in the same order, each with all its fields but those that `restored` names.
Written once more it is read as it is. -/
theorem read_write_restores (engine : String) (tables : List Table)
    (h : checkTables tables = .ok ()) :
    (read (write { engine, tables })).map Prod.snd = .ok (restoredTables engine tables) ∧
      (read (write { engine, tables := restoredTables engine tables })).map Prod.snd =
        .ok (restoredTables engine tables) := by
  have hconsistent := checkTables_eq_ok_iff.1 h
  refine ⟨map_read_write _ hconsistent, ?_⟩
  rw [map_read_write _ (consistent_restoredTables _ hconsistent), restoredTables_restoredTables]

/-- Two tables that refer to each other, with a type that is left open, a reference to nothing but a
schema, facts of three systems, and a quote, a tab and a line feed in their texts. -/
def bookTables : List Table :=
  [{ name := "author"
     columns :=
      [{ name := "id"
         nativeType := "INT(11)"
         primaryKey := true
         vendor := some (.mariadb { autoIncrement := true, dataTypeLength := 11, keyType := .primary }) },
       { name := "say \"hi\"\t"
         dataType := .string
         nativeType := "text"
         target := { schema := "lost" }
         comment := some "a\nb"
         vendor := some (.other "SQLite") }] },
   { schema := "shop"
     name := "book"
     columns :=
      [{ name := "author_id"
         dataType := .integer
         foreignKey := true
         target := { table := "author", column := "id" }
         defaultValue := some ""
         vendor := some (.postgres { identity := some "ALWAYS", numericPrecision := some 32 }) }] }]

theorem read_write_restores_books :
    checkTables bookTables = .ok () ∧
      (read (write { engine := "mysql", tables := bookTables })).map Prod.snd =
        .ok (restoredTables "mysql" bookTables) ∧
      (restoredTables "mysql" bookTables).map (fun table => table.columns.map Column.dataType) =
        [[.integer, .string], [.integer]] :=
  ⟨by decide, (read_write_restores "mysql" bookTables (by decide)).1, by decide⟩

end Snapshot

end RowTypes
