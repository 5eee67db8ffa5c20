import Mathlib.Data.List.Nodup
import RowTypes.Field
import RowTypes.Relation
import RowTypes.Proofs.Schema.Consistency

/-!
Pointers and lists. A foreign key is seen from both its ends: the referring table may get a pointer,
for which the target is looked up by its name, and the target a list of the referring rows, for which
the columns of all tables are gone through. In a consistent table set both find the same foreign keys.

What is proved:
  1. `Consistent.find?_eq_some_iff`: a look-up gives a table iff the table has the name.
  2. `pointsTo_iff`: when the field of a column points to a table.
  3. `relations_eq_map`: the lists of a table are those of the foreign keys on it, in their order.
  4. `pointsTo_dual`: pointers and lists belong together, one to one.
-/

namespace RowTypes

/-! ## Look-ups -/

theorem Table.isNamed_iff {table : Table} {schema name : String} :
    table.isNamed schema name = true ↔ table.key = (schema, name) := by
  simp [isNamed, key]

/-- A look-up gives the table that has the name. -/
theorem Consistent.find?_eq_some_iff {cat : Catalog} (h : Consistent cat.tables) {table : Table}
    {schema name : String} : cat.find? schema name = some table ↔
      table ∈ cat.tables ∧ table.key = (schema, name) := by
  have hfound {table : Table} (hfind : cat.find? schema name = some table) :
      table ∈ cat.tables ∧ table.key = (schema, name) := by
    unfold Catalog.find? at hfind
    have hnamed := List.find?_some hfind
    exact ⟨List.mem_of_find?_eq_some hfind, Table.isNamed_iff.mp hnamed⟩
  refine ⟨hfound, ?_⟩
  rintro ⟨htable, hkey⟩
  have hsome : (cat.find? schema name).isSome :=
    List.find?_isSome.mpr ⟨table, htable, Table.isNamed_iff.mpr hkey⟩
  obtain ⟨other, hfind⟩ := Option.isSome_iff_exists.mp hsome
  obtain ⟨hother, hotherKey⟩ := hfound hfind
  have heq := List.inj_on_of_nodup_map h.nodup hother htable (hotherKey.trans hkey.symm)
  exact heq ▸ hfind

namespace Catalog

variable {cat : Catalog} {source target : Table} {column : Column}

/-- All columns with their tables, in the order of the tables and of their columns. -/
def columns (cat : Catalog) : List (Table × Column) :=
  cat.tables.flatMap fun table => table.columns.map (table, ·)

/-- The column is a foreign key, and the table that it refers to is `target`. -/
def RefersTo (cat : Catalog) (column : Column) (target : Table) : Prop :=
  column.foreignKey ∧ cat.find? column.target.schema column.target.table = some target

instance (cat : Catalog) (column : Column) (target : Table) : Decidable (cat.RefersTo column target) :=
  inferInstanceAs (Decidable (_ ∧ _))

/-- The foreign keys on a table, with the tables that they belong to. -/
def foreignKeysOn (cat : Catalog) (target : Table) : List (Table × Column) :=
  cat.columns.filter fun (_, column) => cat.RefersTo column target

/-- The field of the target for a foreign key of `source`. -/
def relationOf (cat : Catalog) (source : Table) (column : Column) : RelationField where
  fieldName := Naming.fieldName source.name
  typeName := cat.typeName source
  reference := qualifyColumn source.schema source.name column.name

/-- The field of the column points to `target`. The type tells no more of the target than the name of
its struct, which other tables may share. -/
structure PointsTo (cat : Catalog) (source : Table) (column : Column) (target : Table) : Prop where
  found : cat.find? column.target.schema column.target.table = some target
  type : cat.fieldType source column = .ok (FieldType.pointer (cat.typeName target), [])

/-! ## Pointers -/

theorem scalar_ne_pointer (dataType : DataType) (nullable : Bool) (typeName : String) :
    FieldType.scalar dataType nullable ≠ FieldType.pointer typeName := by
  intro heq
  have hname := congrArg (fun type => type.name.toList.head?) heq
  cases dataType <;> cases nullable <;> simp [FieldType.scalar, FieldType.pointer, FieldType.anyName] at hname

/-- An included column points to the table that it refers to. -/
theorem pointsTo_iff (hincluded : (cat.options source).inclusion.includes column.name = true) :
    cat.PointsTo source column target ↔ cat.RefersTo column target := by
  have hwants : wantsPointer (cat.options source) column = column.foreignKey := by
    rw [wantsPointer, hincluded, Bool.and_true]
  constructor
  · rintro ⟨hfound, htype⟩
    refine ⟨Decidable.byContradiction fun hkey => ?_, hfound⟩
    rw [fieldType, hwants, if_neg hkey, Except.ok.injEq, Prod.mk.injEq] at htype
    exact scalar_ne_pointer _ _ _ htype.1
  · rintro ⟨hkey, hfound⟩
    refine ⟨hfound, ?_⟩
    rw [fieldType, hwants, if_pos hkey]
    simp only [hfound]

/-! ## Lists -/

/-- What the scan of the columns looks for is what the look-up of the target finds. -/
theorem refersTo_iff (h : Consistent cat.tables) (htarget : target ∈ cat.tables) :
    cat.RefersTo column target ↔ column.refersTo target.schema target.name = true := by
  rw [RefersTo, h.find?_eq_some_iff, and_iff_right htarget, Table.key, Prod.mk.injEq, Column.refersTo,
    Bool.and_eq_true, Bool.and_eq_true, beq_iff_eq, beq_iff_eq, and_assoc]
  exact and_congr_right fun _ => and_congr eq_comm eq_comm

/-- The lists of a table that wants them are those of the foreign keys on it, in their order. -/
theorem relations_eq_map (h : Consistent cat.tables) (htarget : target ∈ cat.tables)
    (hpointed : (cat.options target).includePointed = true) :
    cat.relations target =
      (cat.foreignKeysOn target).map fun (source, column) => cat.relationOf source column := by
  rw [relations, if_pos hpointed, foreignKeysOn, columns, List.filter_flatMap, List.map_flatMap]
  congr 1
  funext source
  rw [List.filter_map, List.map_map, relationsFrom]
  congr 1
  refine List.filter_congr fun column _ => ?_
  rw [Bool.eq_iff_iff, ← refersTo_iff h htarget]
  exact decide_eq_true_iff.symm

theorem mem_columns (hsource : source ∈ cat.tables) (hcolumn : column ∈ source.columns) :
    (source, column) ∈ cat.columns :=
  List.mem_flatMap.mpr ⟨source, hsource, List.mem_map_of_mem hcolumn⟩

theorem nodup_columns (h : Consistent cat.tables) : cat.columns.Nodup := by
  rw [columns, List.nodup_flatMap]
  constructor
  · intro table htable
    exact ((h.tables table htable).nodup.of_map _).map (fun _ _ heq => (Prod.mk.inj heq).2)
  · refine (h.nodup.of_map _).imp fun hne => ?_
    intro pair hfirst hsecond
    obtain ⟨_, -, rfl⟩ := List.mem_map.mp hfirst
    obtain ⟨_, -, heq⟩ := List.mem_map.mp hsecond
    exact hne (Prod.mk.inj heq).1.symm

/-- Pointers and lists are two views of the foreign keys. A table that wants lists has one for every
foreign key on it, in the order of the tables and of their columns. An included column points to the
table iff it is among these foreign keys, and then it is so exactly once. -/
theorem pointsTo_dual (hcheck : checkTables cat.tables = .ok ()) (htarget : target ∈ cat.tables)
    (hpointed : (cat.options target).includePointed = true) :
    cat.relations target =
        (cat.foreignKeysOn target).map (fun (source, column) => cat.relationOf source column) ∧
      ∀ source ∈ cat.tables, ∀ column ∈ source.columns,
        (cat.options source).inclusion.includes column.name = true →
          (cat.PointsTo source column target ↔ (source, column) ∈ cat.foreignKeysOn target) ∧
          (cat.PointsTo source column target → (cat.foreignKeysOn target).count (source, column) = 1) := by
  have hconsistent := checkTables_eq_ok_iff.mp hcheck
  refine ⟨relations_eq_map hconsistent htarget hpointed, ?_⟩
  intro source hsource column hcolumn hincluded
  have hmem : cat.PointsTo source column target ↔ (source, column) ∈ cat.foreignKeysOn target := by
    rw [pointsTo_iff hincluded, foreignKeysOn, List.mem_filter, decide_eq_true_eq]
    exact (and_iff_right (mem_columns hsource hcolumn)).symm
  have hnodup : (cat.foreignKeysOn target).Nodup := (nodup_columns hconsistent).filter _
  exact ⟨hmem, fun hpoints => List.count_eq_one_of_mem hnodup (hmem.mp hpoints)⟩

/-- A table that refers to itself, and one of the same name in another schema that refers to both. -/
def staff : Table :=
  { schema := "a", name := "staff"
    columns := [{ name := "id" }, { name := "boss", foreignKey := true, target := ⟨"staff", "a", "id"⟩ }] }

def otherStaff : Table :=
  { schema := "b", name := "staff"
    columns := [{ name := "id", foreignKey := true, target := ⟨"staff", "a", "id"⟩ },
      { name := "boss", foreignKey := true, target := ⟨"staff", "b", "id"⟩ }] }

def staffCatalog : Catalog where
  config := { tables := [("staff", { includeReferenced := ["*"], includePointed := true })] }
  tables := [staff, otherStaff]

theorem pointsTo_dual_staff : checkTables staffCatalog.tables = .ok () ∧
    (staffCatalog.options staff).includePointed = true ∧
    (staffCatalog.relations staff).map RelationField.reference = ["a.staff.boss", "b.staff.id"] ∧
    ∀ column ∈ otherStaff.columns, staffCatalog.PointsTo otherStaff column staff ↔
      (otherStaff, column) ∈ staffCatalog.foreignKeysOn staff := by
  have hcheck : checkTables staffCatalog.tables = .ok () := by decide +kernel
  have hpointed : (staffCatalog.options staff).includePointed = true := by decide +kernel
  obtain ⟨hrelations, hdual⟩ := pointsTo_dual hcheck (by simp [staffCatalog]) hpointed
  refine ⟨hcheck, hpointed, ?_, ?_⟩
  · rw [hrelations]
    decide +kernel
  · have hincluded : ∀ column ∈ otherStaff.columns,
        (staffCatalog.options otherStaff).inclusion.includes column.name = true := by
      decide +kernel
    exact fun column hcolumn =>
      (hdual otherStaff (by simp [staffCatalog]) column hcolumn (hincluded column hcolumn)).1

end Catalog

end RowTypes
