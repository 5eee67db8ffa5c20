import Mathlib.Data.List.Nodup
import RowTypes.Schema.Consistency

/-!
What a consistent table set is. The check goes through the tables with the names that it has seen; it
accepts a set exactly if no name occurs twice and every flag fits its reference.

What is proved:
  1. `checkColumns_eq_ok_iff`, `checkTables_eq_ok_iff`: what the check accepts.
  2. `Consistent.map_columns`: a change of columns that leaves names alone and sets flags as the
     references have them makes no set inconsistent.
-/

namespace RowTypes

/-- The flag of a column fits its reference. -/
def Column.FlagFits (column : Column) : Prop :=
  column.foreignKey = !column.target.column.isEmpty

/-- No two columns have one name, and every flag fits. -/
structure Table.Consistent (table : Table) : Prop where
  nodup : (table.columns.map Column.name).Nodup
  flagFits : ∀ column ∈ table.columns, column.FlagFits

/-- The schema and the name of a table. -/
def Table.key (table : Table) : String × String :=
  (table.schema, table.name)

/-- No two tables have one schema and name, and every table is consistent. -/
structure Consistent (tables : List Table) : Prop where
  nodup : (tables.map Table.key).Nodup
  tables : ∀ table ∈ tables, table.Consistent

theorem Column.flagFits_iff {column : Column} :
    column.FlagFits ↔ (column.foreignKey == column.target.column.isEmpty) = false := by
  rw [FlagFits]
  cases column.foreignKey <;> cases column.target.column.isEmpty <;> decide

theorem nodup_new_cons_iff {α β : Type} {f : α → β} {a : α} {l : List α} {seen : List β} :
    (((a :: l).map f).Nodup ∧ ∀ x ∈ a :: l, f x ∉ seen) ↔
      f a ∉ seen ∧ (l.map f).Nodup ∧ ∀ x ∈ l, f x ∉ f a :: seen := by
  rw [List.forall_mem_cons]
  simp only [List.map_cons, List.nodup_cons, List.mem_map, not_exists, not_and, List.mem_cons, not_or]
  constructor
  · rintro ⟨⟨hfirst, hrest⟩, hseen, hnew⟩
    exact ⟨hseen, hrest, fun x hx => ⟨hfirst x hx, hnew x hx⟩⟩
  · rintro ⟨hseen, hrest, hnew⟩
    exact ⟨⟨fun x hx => (hnew x hx).1, hrest⟩, hseen, fun x hx => (hnew x hx).2⟩

theorem checkColumns_eq_ok_iff {table : String} {columns : List Column} {seen : List String} :
    checkColumns table seen columns = .ok () ↔
      ((columns.map Column.name).Nodup ∧ ∀ column ∈ columns, column.name ∉ seen) ∧
        ∀ column ∈ columns, column.FlagFits := by
  induction columns generalizing seen with
  | nil => simp [checkColumns]
  | cons column columns ih =>
    rw [checkColumns, nodup_new_cons_iff, List.forall_mem_cons]
    by_cases hseen : column.name ∈ seen
    · simp [hseen]
    by_cases hfits : column.FlagFits
    · rw [if_neg (by simpa using hseen), if_neg (by simp [Column.flagFits_iff.1 hfits]), ih]
      simp [hseen, hfits]
    · have hflag : (column.foreignKey == column.target.column.isEmpty) = true := by
        simpa [Column.flagFits_iff] using hfits
      simp [hseen, hflag, hfits]

theorem Table.consistent_iff {table : Table} :
    table.Consistent ↔ checkColumns table.qualifiedName [] table.columns = .ok () := by
  rw [checkColumns_eq_ok_iff]
  constructor
  · rintro ⟨hnodup, hflags⟩
    exact ⟨⟨hnodup, by simp⟩, hflags⟩
  · rintro ⟨⟨hnodup, -⟩, hflags⟩
    exact ⟨hnodup, hflags⟩

theorem checkTablesAfter_eq_ok_iff {tables : List Table} {seen : List (String × String)} :
    checkTablesAfter seen tables = .ok () ↔
      ((tables.map Table.key).Nodup ∧ ∀ table ∈ tables, table.key ∉ seen) ∧
        ∀ table ∈ tables, table.Consistent := by
  -- By induction on the tables, for any keys that were seen before them.
  induction tables generalizing seen with
  | nil => simp [checkTablesAfter]
  | cons table tables ih =>
    rw [checkTablesAfter, nodup_new_cons_iff, List.forall_mem_cons, Table.consistent_iff]
    change (if seen.contains table.key then _ else _) = _ ↔ _
    by_cases hseen : table.key ∈ seen
    · simp [hseen]
    rw [if_neg (by simpa using hseen)]
    cases checkColumns table.qualifiedName [] table.columns with
    | error e => simp
    | ok u =>
      change checkTablesAfter (table.key :: seen) tables = _ ↔ _
      rw [ih]
      simp [hseen]

/-- The check accepts the consistent table sets. -/
theorem checkTables_eq_ok_iff {tables : List Table} :
    checkTables tables = .ok () ↔ Consistent tables := by
  rw [checkTables, checkTablesAfter_eq_ok_iff]
  constructor
  · rintro ⟨⟨hnodup, -⟩, htables⟩
    exact ⟨hnodup, htables⟩
  · rintro ⟨hnodup, htables⟩
    exact ⟨⟨hnodup, by simp⟩, htables⟩

/-- A set stays consistent where columns keep their names and have the flags that fit. -/
theorem Consistent.map_columns {tables : List Table} (h : Consistent tables) {f : Column → Column}
    (hname : ∀ column, (f column).name = column.name)
    (hfits : ∀ table ∈ tables, ∀ column ∈ table.columns, (f column).FlagFits) :
    Consistent (tables.map fun table => { table with columns := table.columns.map f }) where
  nodup := by
    rw [List.map_map]
    exact h.nodup
  tables := by
    intro table htable
    obtain ⟨table, hmem, rfl⟩ := List.mem_map.1 htable
    have hnames : (table.columns.map f).map Column.name = table.columns.map Column.name := by
      rw [List.map_map]
      exact List.map_congr_left fun column _ => hname column
    exact ⟨hnames ▸ (h.tables table hmem).nodup, by simpa using hfits table hmem⟩

end RowTypes
