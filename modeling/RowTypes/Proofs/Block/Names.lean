import Mathlib.Data.Finset.Card
import RowTypes.Proofs.Block.Rendering

/-!
The names that a block declares: a field of the struct for each column and for each foreign key that
refers to the table, the reserved field, and a constant for each field but the reserved one.

What is proved:
  1. `Catalog.declares_of_render`: which names the text of a rendered block declares.
  2. `Catalog.length_duplicates`: how often a field name is reported as a duplicate.
  3. `constantName_inj`: the name of a constant determines its type and its field, since the last
     underscore of it is the one that joins the two.
-/

namespace RowTypes

open Block

namespace Block

/-! ## Names in a text -/

/-- Lines of fields with these names, and comments between them. -/
inductive FieldLines : List String → List String → Prop where
  | nil : FieldLines [] []
  | comment {lines names : List String} (text : String) :
      FieldLines lines names → FieldLines (indented ("// " ++ text) :: lines) names
  | field {lines names : List String} (name rest : String) :
      FieldLines lines names → FieldLines (indented (name ++ " " ++ rest) :: lines) (name :: names)

/-- The line of a constant. -/
def constantLine (name value : String) : String :=
  indented (name ++ " string = \"" ++ value ++ "\"")

/-- The text of a block declares a struct with these fields, and these constants. -/
structure Declares (block : Block) (fields constants : List String) : Prop where
  fields : ∃ lines, FieldLines lines fields ∧ block.declaration =
    unlines (("type " ++ block.typeName ++ " struct \x7b") :: (lines ++ ["\x7d"]))
  constants : ∃ values, values.length = constants.length ∧ block.constants =
    unlines (("// " ++ block.typeName) :: "const (" ::
      (List.zipWith constantLine constants values ++ [")"]))

/-- The name of the constant for a field. -/
def constantName (typeName field : String) : String :=
  typeName ++ "_" ++ field

variable {lines more names others : List String}

theorem FieldLines.append (h : FieldLines lines names) (h' : FieldLines more others) :
    FieldLines (lines ++ more) (names ++ others) := by
  induction h with
  | nil => exact h'
  | comment text _ ih => exact .comment text ih
  | field name rest _ ih => exact .field name rest ih

theorem fieldLines_comments (texts : List String) :
    FieldLines (texts.map fun text => indented ("// " ++ text)) [] := by
  induction texts with
  | nil => exact .nil
  | cons text texts ih => exact .comment text ih

theorem fieldLines_columnLines (column : Column) (type : FieldType) :
    FieldLines (columnLines column type) [Naming.fieldName column.name] := by
  refine (fieldLines_comments column.commentLines).append ?_
  have hfield := FieldLines.field (Naming.fieldName column.name) (type.name ++ " `json:\"" ++
    Naming.keyName column.name ++ "\" " ++ Tag.columnKey ++ ":\"" ++
      (ColumnTag.ofColumn column).format ++ "\"`") .nil
  simpa only [String.append_assoc] using hfield

theorem fieldLines_relationLine (field : RelationField) :
    FieldLines [relationLine field] [field.fieldName] := by
  have hfield := FieldLines.field field.fieldName (field.listType ++ " `" ++ Tag.columnKey ++ ":\"" ++
    field.tag.format ++ "\"`") .nil
  simpa only [relationLine, String.append_assoc] using hfield

theorem fieldLines_reservedLine (table : Table) :
    FieldLines [reservedLine table] [Tag.reservedField] := by
  have hfield := FieldLines.field Tag.reservedField (FieldType.anyName ++ " `json:\"-\" " ++
    Tag.tableKey ++ ":\"" ++ (TableTag.mk table.schema table.name).format ++ "\"`") .nil
  simpa only [reservedLine, String.append_assoc] using hfield

theorem fieldLines_flatMap {α : Type} {linesOf : α → List String} {nameOf : α → String}
    {items : List α} (h : ∀ item ∈ items, FieldLines (linesOf item) [nameOf item]) :
    FieldLines (items.flatMap linesOf) (items.map nameOf) := by
  induction items with
  | nil => exact .nil
  | cons item items ih =>
    obtain ⟨hitem, hitems⟩ := List.forall_mem_cons.mp h
    exact hitem.append (ih hitems)

/-! ## Repeated names -/

theorem repeated_eq_nil_iff {seen : List String} :
    repeated seen names = [] ↔ names.Nodup ∧ ∀ name ∈ names, name ∉ seen := by
  induction names generalizing seen with
  | nil => simp [repeated]
  | cons name names ih =>
    rw [repeated]
    split
    · next hseen =>
      rw [List.contains_iff_mem] at hseen
      simp [hseen]
    · next hnew =>
      rw [List.contains_iff_mem] at hnew
      rw [ih, List.nodup_cons, List.forall_mem_cons]
      constructor
      · rintro ⟨hnodup, hothers⟩
        refine ⟨⟨fun hmem => hothers name hmem List.mem_cons_self, hnodup⟩, hnew, ?_⟩
        exact fun other hother hseen => hothers other hother (List.mem_cons_of_mem _ hseen)
      · rintro ⟨⟨hfirst, hnodup⟩, -, hothers⟩
        refine ⟨hnodup, fun other hother hseen => ?_⟩
        rcases List.mem_cons.mp hseen with rfl | hseen
        · exact hfirst hother
        · exact hothers other hother hseen

/-- Each name is new once and a repetition every other time. -/
theorem length_repeated_add_card (seen names : List String) :
    (repeated seen names).length + (seen.toFinset ∪ names.toFinset).card =
      names.length + seen.toFinset.card := by
  induction names generalizing seen with
  | nil => simp [repeated]
  | cons name names ih =>
    rw [repeated, List.toFinset_cons, Finset.union_insert]
    split
    · next hseen =>
      have hmem : name ∈ seen.toFinset ∪ names.toFinset := by simp [List.contains_iff_mem.mp hseen]
      have hrest := ih seen
      rw [Finset.insert_eq_of_mem hmem, List.length_cons, List.length_cons]
      omega
    · next hnew =>
      have hmem : name ∉ seen.toFinset := by
        rwa [List.contains_iff_mem, ← List.mem_toFinset] at hnew
      have hrest := ih (name :: seen)
      rw [List.toFinset_cons, Finset.card_insert_of_notMem hmem, Finset.insert_union] at hrest
      rw [List.length_cons]
      omega

theorem length_repeated (names : List String) :
    (repeated [] names).length + names.dedup.length = names.length := by
  have hcard := length_repeated_add_card [] names
  simpa [List.card_toFinset] using hcard

/-! ## Names of constants -/

/-- The last underscore of the name of a constant parts the type from the field. -/
theorem constantName_inj {type other field field' : String} (hfield : '_' ∉ field.toList)
    (hfield' : '_' ∉ field'.toList) (heq : constantName type field = constantName other field') :
    type = other ∧ field = field' := by
  have hreverse : field.toList.reverse ++ '_' :: type.toList.reverse =
      field'.toList.reverse ++ '_' :: other.toList.reverse := by
    simpa [constantName] using congrArg (fun name => name.toList.reverse) heq
  have hplain (name : String) (h : '_' ∉ name.toList) :
      ∀ c ∈ name.toList.reverse, (fun c => c != '_') c := by
    intro c hc
    exact bne_iff_ne.mpr fun hunderscore => h (hunderscore ▸ List.mem_reverse.mp hc)
  obtain ⟨hnames, htypes⟩ := Region.prefix_unique (hplain field hfield) (hplain field' hfield')
    (by simp) (by simp) hreverse
  exact ⟨String.toList_inj.mp (List.reverse_inj.mp (List.cons.inj htypes).2),
    String.toList_inj.mp (List.reverse_inj.mp hnames)⟩

end Block

/-! ## Names of a table -/

namespace Catalog

variable {cat : Catalog} {table : Table} {block : Block}

/-- The names of the fields of a table, without the reserved one. -/
def fieldNames (cat : Catalog) (table : Table) : List String :=
  (cat.constants table).map (·.field)

/-- The names of all fields of the struct of a table. -/
def structFields (cat : Catalog) (table : Table) : List String :=
  cat.fieldNames table ++ [Tag.reservedField]

/-- The names of the constants of a table. -/
def constantNames (cat : Catalog) (table : Table) : List String :=
  (cat.fieldNames table).map (constantName (cat.typeName table))

theorem fieldNames_eq (cat : Catalog) (table : Table) : cat.fieldNames table =
    table.columns.map (fun column => Naming.fieldName column.name) ++
      (cat.relations table).map (·.fieldName) := by
  simp [fieldNames, constants, columnConstant, relationConstant, Function.comp_def]

theorem underscore_not_mem_of_mem_fieldNames {field : String} (h : field ∈ cat.fieldNames table) :
    '_' ∉ field.toList := by
  rw [fieldNames_eq] at h
  rcases List.mem_append.mp h with hcolumn | hrelation
  · obtain ⟨column, -, rfl⟩ := List.mem_map.mp hcolumn
    exact Naming.underscore_not_mem_fieldName column.name
  · obtain ⟨relation, hmem, rfl⟩ := List.mem_map.mp hrelation
    unfold relations at hmem
    split at hmem
    · obtain ⟨source, -, hfrom⟩ := List.mem_flatMap.mp hmem
      obtain ⟨column, -, rfl⟩ := List.mem_map.mp hfrom
      exact Naming.underscore_not_mem_fieldName source.name
    · simp at hmem

theorem reservedField_not_mem_fieldNames : Tag.reservedField ∉ cat.fieldNames table :=
  fun hmem => underscore_not_mem_of_mem_fieldNames hmem (by decide)

theorem nodup_structFields (h : (cat.fieldNames table).Nodup) : (cat.structFields table).Nodup := by
  rw [structFields, List.nodup_append]
  refine ⟨h, by simp, ?_⟩
  rintro field hfield other hother rfl
  rw [List.mem_singleton.mp hother] at hfield
  exact reservedField_not_mem_fieldNames hfield

theorem nodup_constantNames (h : (cat.fieldNames table).Nodup) :
    (cat.constantNames table).Nodup := by
  refine List.Nodup.map_on ?_ h
  intro field hfield other hother heq
  exact (constantName_inj (underscore_not_mem_of_mem_fieldNames hfield)
    (underscore_not_mem_of_mem_fieldNames hother) heq).2

theorem disjoint_constantNames {other : Table} (h : cat.typeName table ≠ cat.typeName other) :
    (cat.constantNames table).Disjoint (cat.constantNames other) := by
  intro name hname hother
  obtain ⟨field, hfield, rfl⟩ := List.mem_map.mp hname
  obtain ⟨field', hfield', heq⟩ := List.mem_map.mp hother
  exact h (constantName_inj (underscore_not_mem_of_mem_fieldNames hfield)
    (underscore_not_mem_of_mem_fieldNames hfield') heq.symm).1

theorem fieldLines_fieldLines {fields : List (Column × FieldType × List Issue)}
    (h : cat.fieldTypes table table.columns = .ok fields) :
    FieldLines (cat.fieldLines table fields) (cat.fieldNames table) := by
  have hcolumns : FieldLines (fields.flatMap fun field => columnLines field.1 field.2.1)
      (fields.map fun field => Naming.fieldName field.1.name) :=
    fieldLines_flatMap fun field _ => fieldLines_columnLines field.1 field.2.1
  have hrelations : FieldLines ((cat.relations table).map relationLine)
      ((cat.relations table).map (·.fieldName)) := by
    have hlines : (cat.relations table).map relationLine =
        (cat.relations table).flatMap fun field => [relationLine field] := List.map_eq_flatMap
    rw [hlines]
    exact fieldLines_flatMap fun field _ => fieldLines_relationLine field
  have hnames : table.columns.map (fun column => Naming.fieldName column.name) =
      fields.map fun field => Naming.fieldName field.1.name := by
    rw [← (fieldTypes_ok h).1, List.map_map]
    rfl
  rw [fieldNames_eq, hnames]
  exact hcolumns.append hrelations

/-- The text of a rendered block declares the fields and the constants of its table. -/
theorem declares_of_render (h : cat.render table = .ok block) :
    block.Declares (cat.structFields table) (cat.constantNames table) := by
  unfold render at h
  split at h
  · cases h
  · next fields hfields =>
    cases h
    have hlines := (fieldLines_fieldLines hfields).append (fieldLines_reservedLine table)
    refine ⟨⟨_, hlines, ?_⟩, (cat.constants table).map (·.value), ?_, ?_⟩
    · simp [blockOf, fieldLines]
    · simp [constantNames, fieldNames]
    · have hconstants : List.zipWith constantLine (cat.constantNames table)
          ((cat.constants table).map (·.value)) =
          (cat.constants table).map (Constant.line (cat.typeName table)) := by
        rw [constantNames, fieldNames, List.map_map, List.zipWith_map, List.zipWith_self]
        rfl
      rw [hconstants]
      simp [blockOf, constants]

/-! ## Duplicates -/

theorem code_of_fieldType {column : Column} {type : FieldType} {issues : List Issue}
    (h : cat.fieldType table column = .ok (type, issues)) :
    ∀ issue ∈ issues, issue.code = .missingRelationshipTarget := by
  unfold fieldType at h
  split at h
  · split at h
    · cases h
      simp
    · split at h
      · cases h
      · cases h
        simp [Issue.missingTarget]
  · cases h
    simp

theorem filter_issues_of_render (h : cat.render table = .ok block) :
    block.issues.filter (fun issue => issue.code = .duplicateField) =
      (repeated [] (cat.fieldNames table)).map (Issue.duplicateField table) := by
  unfold render at h
  split at h
  · cases h
  · next fields hfields =>
    cases h
    have hissues : (cat.blockOf table fields).issues =
        (fields.flatMap fun field => field.2.2) ++
          (repeated [] (cat.fieldNames table)).map (Issue.duplicateField table) := rfl
    rw [hissues, List.filter_append, List.filter_eq_nil_iff.mpr, List.nil_append,
      List.filter_eq_self.mpr]
    · intro issue hissue
      obtain ⟨name, -, rfl⟩ := List.mem_map.mp hissue
      rfl
    · intro issue hissue
      obtain ⟨field, hfield, hmem⟩ := List.mem_flatMap.mp hissue
      simp [code_of_fieldType ((fieldTypes_ok hfields).2 field hfield) issue hmem]

/-- A name is reported each time that it stands in a struct again. -/
theorem length_duplicates (h : cat.render table = .ok block) :
    (block.issues.filter fun issue => issue.code = .duplicateField).length +
      (cat.fieldNames table).dedup.length = (cat.fieldNames table).length := by
  rw [filter_issues_of_render h, List.length_map, length_repeated]

theorem nodup_fieldNames (h : cat.render table = .ok block)
    (hissues : ∀ issue ∈ block.issues, issue.code ≠ .duplicateField) :
    (cat.fieldNames table).Nodup := by
  have hnone := filter_issues_of_render h
  rw [List.filter_eq_nil_iff.mpr (by simpa using hissues)] at hnone
  exact (repeated_eq_nil_iff.mp (List.map_eq_nil_iff.mp hnone.symm)).1

end Catalog

end RowTypes
