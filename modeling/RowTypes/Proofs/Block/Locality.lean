import RowTypes.Proofs.Block.Relations
import RowTypes.Proofs.Block.Rendering

/-!
Which tables the block of a table depends on. Rendering looks up the targets of the included foreign keys
and goes through all foreign keys for the lists, so of the whole table set it sees only the tables at the
other ends of these. Another table that is loaded changes no block but those of the tables that it is
related to in this way, and it does change these as long as a missing target is noted and not reported.

What is proved:
  1. `SameView.render_eq`: a table is rendered alike where it has the same targets and the same lists.
  2. `Unrelated.sameView`: a table that is put into a set is not seen by the tables unrelated to it.
  3. `noList_of_constants_eq`, `fieldTypes_insert`: how a related table shows in the block.
  4. `render_insert_iff`: a block stays the same if the added table is unrelated, and under the lenient
     policy only then.
-/

namespace RowTypes

open Block Text

namespace Catalog

/-- The added table is at neither end of a foreign key that shows in the block of `table`. -/
structure Unrelated (config : Config) (added table : Table) : Prop where
  /-- No foreign key that the options include refers to the added table. -/
  noPointer : ∀ column ∈ table.columns,
    wantsPointer (config.resolve table) column = true →
      column.refersTo added.schema added.name = false
  /-- There are no lists, or no foreign key of the added table refers to `table`. -/
  noList : (config.resolve table).includePointed = true →
    ∀ column ∈ added.columns, column.refersTo table.schema table.name = false

/-- A table has the same options, targets and lists in both catalogs. -/
structure SameView (cat other : Catalog) (table : Table) : Prop where
  config : cat.config = other.config
  targets : ∀ column ∈ table.columns, wantsPointer (cat.options table) column = true →
    cat.find? column.target.schema column.target.table =
      other.find? column.target.schema column.target.table
  relations : cat.relations table = other.relations table

variable {cat other : Catalog} {config : Config} {pre post : List Table} {added table : Table}
  {columns : List Column} {column : Column}

/-! ## Equal views -/

theorem typeName_eq (h : cat.config = other.config) : cat.typeName table = other.typeName table := by
  rw [typeName, typeName, options, options, h]

theorem fieldType_eq (hconfig : cat.config = other.config)
    (htarget : wantsPointer (cat.options table) column = true →
      cat.find? column.target.schema column.target.table =
        other.find? column.target.schema column.target.table) :
    cat.fieldType table column = other.fieldType table column := by
  have hoptions : cat.options table = other.options table := by rw [options, options, hconfig]
  unfold fieldType
  by_cases hwants : wantsPointer (cat.options table) column = true
  · rw [if_pos hwants, if_pos (hoptions ▸ hwants), htarget hwants, hconfig]
    simp only [typeName_eq hconfig]
  · rw [if_neg hwants, if_neg (hoptions ▸ hwants)]

theorem fieldTypes_eq (h : ∀ column ∈ columns, cat.fieldType table column = other.fieldType table column) :
    cat.fieldTypes table columns = other.fieldTypes table columns := by
  induction columns with
  | nil => rfl
  | cons column columns ih =>
    obtain ⟨hcolumn, hcolumns⟩ := List.forall_mem_cons.mp h
    rw [fieldTypes, fieldTypes, hcolumn, ih hcolumns]

/-- A table is rendered alike where it has the same options, targets and lists. -/
theorem SameView.render_eq (h : SameView cat other table) : cat.render table = other.render table := by
  have hfields : cat.fieldTypes table table.columns = other.fieldTypes table table.columns :=
    fieldTypes_eq fun column hcolumn => fieldType_eq h.config (h.targets column hcolumn)
  have hblock : cat.blockOf table = other.blockOf table := by
    funext fields
    rw [blockOf, blockOf, h.relations, typeName_eq h.config]
  rw [render, render, hfields, hblock]

/-! ## Another table -/

theorem find?_insert {schema name : String} (h : added.isNamed schema name = false) :
    find? ⟨config, pre ++ added :: post⟩ schema name = find? ⟨config, pre ++ post⟩ schema name := by
  simp only [find?, List.find?_append, List.find?_cons, h]

/-- The lists with the added table are those without it, and in their midst those from it. -/
theorem relations_insert (h : (config.resolve table).includePointed = true) :
    relations ⟨config, pre ++ added :: post⟩ table =
      pre.flatMap (relationsFrom ⟨config, pre ++ post⟩ table) ++
        (relationsFrom ⟨config, pre ++ post⟩ table added ++
          post.flatMap (relationsFrom ⟨config, pre ++ post⟩ table)) := by
  have hsame : relationsFrom ⟨config, pre ++ added :: post⟩ table =
      relationsFrom ⟨config, pre ++ post⟩ table := rfl
  have hpointed : (options ⟨config, pre ++ added :: post⟩ table).includePointed = true := h
  rw [relations, if_pos hpointed, List.flatMap_append, List.flatMap_cons, hsame]

theorem relations_append (h : (config.resolve table).includePointed = true) :
    relations ⟨config, pre ++ post⟩ table = pre.flatMap (relationsFrom ⟨config, pre ++ post⟩ table) ++
      post.flatMap (relationsFrom ⟨config, pre ++ post⟩ table) := by
  have hpointed : (options ⟨config, pre ++ post⟩ table).includePointed = true := h
  rw [relations, if_pos hpointed, List.flatMap_append]

theorem relationsFrom_eq_nil_iff : cat.relationsFrom table added = [] ↔
    ∀ column ∈ added.columns, column.refersTo table.schema table.name = false := by
  simp [relationsFrom, List.filter_eq_nil_iff]

theorem relations_insert_of_noList (h : (config.resolve table).includePointed = true →
    ∀ column ∈ added.columns, column.refersTo table.schema table.name = false) :
    relations ⟨config, pre ++ added :: post⟩ table = relations ⟨config, pre ++ post⟩ table := by
  by_cases hpointed : (config.resolve table).includePointed = true
  · rw [relations_insert hpointed, relations_append hpointed,
      relationsFrom_eq_nil_iff.mpr (h hpointed), List.nil_append]
  · have hnone (tables : List Table) : relations ⟨config, tables⟩ table = [] := if_neg hpointed
    rw [hnone, hnone]

theorem refersTo_eq_isNamed (added : Table) (hkey : column.foreignKey = true) :
    column.refersTo added.schema added.name =
      added.isNamed column.target.schema column.target.table := by
  rw [Column.refersTo, hkey, Bool.true_and, Table.isNamed, Bool.beq_comm,
    Bool.beq_comm (a := added.name)]

theorem foreignKey_of_wantsPointer {options : TableOptions} (h : wantsPointer options column = true) :
    column.foreignKey = true :=
  (Bool.and_eq_true_iff.mp h).1

/-- An unrelated table that is put into the set is not seen. -/
theorem Unrelated.sameView (h : Unrelated config added table) (pre post : List Table) :
    SameView ⟨config, pre ++ added :: post⟩ ⟨config, pre ++ post⟩ table where
  config := rfl
  targets := by
    intro column hcolumn hwants
    apply find?_insert
    rw [← refersTo_eq_isNamed added (foreignKey_of_wantsPointer hwants)]
    exact h.noPointer column hcolumn hwants
  relations := relations_insert_of_noList h.noList

/-! ## How a related table shows -/

theorem constants_blockOf (cat : Catalog) (table : Table)
    (fields : List (Column × FieldType × List Issue)) :
    (cat.blockOf table fields).constants.toList =
      terminated ((["// " ++ cat.typeName table, "const ("] ++
        table.columns.map (fun column => (columnConstant table column).line (cat.typeName table)) ++
        (cat.relations table).map (fun field => (relationConstant field).line (cat.typeName table)) ++
        [")"]).map String.toList) := by
  simp [blockOf, toList_unlines, Function.comp_def]

/-- A block with the same constants has no list of the added table. -/
theorem noList_of_constants_eq {fields others : List (Column × FieldType × List Issue)}
    (h : (blockOf ⟨config, pre ++ added :: post⟩ table fields).constants =
      (blockOf ⟨config, pre ++ post⟩ table others).constants)
    (hpointed : (config.resolve table).includePointed = true) :
    ∀ column ∈ added.columns, column.refersTo table.schema table.name = false := by
  have htype : typeName ⟨config, pre ++ added :: post⟩ table = typeName ⟨config, pre ++ post⟩ table := rfl
  have htext := congrArg String.toList h
  rw [constants_blockOf, constants_blockOf, relations_insert hpointed, relations_append hpointed,
    htype] at htext
  simp only [List.map_append, List.append_assoc, terminated_append, List.append_cancel_left_eq,
    List.append_left_eq_self] at htext
  have hnone : relationsFrom ⟨config, pre ++ post⟩ table added = [] :=
    List.eq_nil_iff_forall_not_mem.mpr (by simpa [terminated] using htext)
  exact relationsFrom_eq_nil_iff.mp hnone

/-- The field of the column points to the added table once that is there. -/
def pointsAt (config : Config) (added table : Table) (column : Column) : Bool :=
  wantsPointer (config.resolve table) column && column.refersTo added.schema added.name

/-- Under the lenient policy every column has a type, and of one that refers to the added table it is
noted without that table that its target is missing. -/
theorem fieldType_insert (hlenient : config.policy = .lenient)
    (hnew : ∀ other ∈ pre ++ post, other.key ≠ added.key) (table : Table) (column : Column) :
    ∃ field without, fieldType ⟨config, pre ++ added :: post⟩ table column = .ok field ∧
      fieldType ⟨config, pre ++ post⟩ table column = .ok without ∧
      without.2.length = field.2.length + if pointsAt config added table column then 1 else 0 := by
  have hwants (tables : List Table) : wantsPointer (options ⟨config, tables⟩ table) column =
      wantsPointer (config.resolve table) column := rfl
  unfold fieldType pointsAt
  simp only [hwants]
  by_cases hpointer : wantsPointer (config.resolve table) column = true
  · have hrefers := refersTo_eq_isNamed added (foreignKey_of_wantsPointer hpointer)
    simp only [hpointer, if_true, Bool.true_and, hrefers]
    cases hnamed : added.isNamed column.target.schema column.target.table with
    | true =>
      have hthere : (find? ⟨config, pre ++ added :: post⟩ column.target.schema
          column.target.table).isSome :=
        List.find?_isSome.mpr ⟨added, by simp, hnamed⟩
      have hmissing : find? ⟨config, pre ++ post⟩ column.target.schema column.target.table = none := by
        apply List.find?_eq_none.mpr
        intro other hother hsame
        apply hnew other hother
        rw [Table.isNamed_iff.mp hsame, Table.isNamed_iff.mp hnamed]
      obtain ⟨target, htarget⟩ := Option.isSome_iff_exists.mp hthere
      simp [htarget, hmissing, hlenient]
    | false =>
      rw [find?_insert hnamed]
      cases find? ⟨config, pre ++ post⟩ column.target.schema column.target.table <;> simp [hlenient]
  · simp [hpointer]

/-- The notes about some columns are fewer with the added table, by the number of pointers to it. -/
theorem fieldTypes_insert (hlenient : config.policy = .lenient)
    (hnew : ∀ other ∈ pre ++ post, other.key ≠ added.key) (table : Table) (columns : List Column) :
    ∃ fields without, fieldTypes ⟨config, pre ++ added :: post⟩ table columns = .ok fields ∧
      fieldTypes ⟨config, pre ++ post⟩ table columns = .ok without ∧
      (without.flatMap fun field => field.2.2).length = (fields.flatMap fun field => field.2.2).length +
        columns.countP (pointsAt config added table) := by
  induction columns with
  | nil => exact ⟨[], [], rfl, rfl, rfl⟩
  | cons column columns ih =>
    obtain ⟨fields, without, hfields, hwithout, hlength⟩ := ih
    obtain ⟨first, firstWithout, hfirst, hfirstWithout, hone⟩ :=
      fieldType_insert hlenient hnew table column
    refine ⟨(column, first) :: fields, (column, firstWithout) :: without, ?_, ?_, ?_⟩
    · simp only [fieldTypes, hfirst, hfields]
    · simp only [fieldTypes, hfirstWithout, hwithout]
    · simp only [List.flatMap_cons, List.length_append, hlength, hone, List.countP_cons]
      omega

/-- A block stays the same if an unrelated table is added to the set, whatever its position, and under the
lenient policy only then. -/
theorem render_insert_iff (config : Config) (pre post : List Table) (added table : Table)
    (hcheck : checkTables (pre ++ added :: post) = .ok ()) :
    (Unrelated config added table →
      render ⟨config, pre ++ added :: post⟩ table = render ⟨config, pre ++ post⟩ table) ∧
    (config.policy = .lenient →
      render ⟨config, pre ++ added :: post⟩ table = render ⟨config, pre ++ post⟩ table →
        Unrelated config added table) := by
  refine ⟨fun h => (h.sameView pre post).render_eq, fun hlenient hrender => ?_⟩
  have hnew : ∀ other ∈ pre ++ post, other.key ≠ added.key := by
    have hnodup : ((added :: (pre ++ post)).map Table.key).Nodup :=
      (List.perm_middle.map Table.key).nodup_iff.mp (checkTables_eq_ok_iff.mp hcheck).nodup
    intro other hother heq
    exact (List.nodup_cons.mp hnodup).1 (heq ▸ List.mem_map_of_mem hother)
  obtain ⟨fields, without, hfields, hwithout, hlength⟩ :=
    fieldTypes_insert hlenient hnew table table.columns
  rw [render, render, hfields, hwithout] at hrender
  have hblock := Except.ok.inj hrender
  have hlist := noList_of_constants_eq (congrArg Block.constants hblock)
  refine ⟨fun column hcolumn hwants => ?_, hlist⟩
  have hissues := congrArg Block.issues hblock
  simp only [blockOf, relations_insert_of_noList hlist, List.append_cancel_right_eq] at hissues
  have hsame : fields.flatMap (fun field => field.2.2) = without.flatMap fun field => field.2.2 := hissues
  have hnone : table.columns.countP (pointsAt config added table) = 0 := by
    rw [hsame] at hlength
    omega
  have hpoints := List.countP_eq_zero.mp hnone column hcolumn
  simpa [pointsAt, hwants] using hpoints

/-- A third table of the same name, which refers to the second one. -/
def visitor : Table :=
  { schema := "c", name := "staff"
    columns := [{ name := "host", foreignKey := true, target := ⟨"staff", "b", "id"⟩ }] }

theorem render_insert_visitor :
    checkTables [staff, visitor, otherStaff] = .ok () ∧ Unrelated staffCatalog.config visitor staff ∧
    render ⟨staffCatalog.config, [staff, visitor, otherStaff]⟩ staff =
      render ⟨staffCatalog.config, [staff, otherStaff]⟩ staff := by
  have hcheck : checkTables [staff, visitor, otherStaff] = .ok () := by decide +kernel
  have hunrelated : Unrelated staffCatalog.config visitor staff := by
    constructor
    · decide +kernel
    · decide +kernel
  exact ⟨hcheck, hunrelated,
    (render_insert_iff staffCatalog.config [staff] [otherStaff] visitor staff hcheck).1 hunrelated⟩

end Catalog

end RowTypes
