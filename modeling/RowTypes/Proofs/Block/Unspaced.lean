import RowTypes.Block
import RowTypes.Proofs.Naming

/-!
Catalogs whose names and suffixes hold no white space, and the parts of a block that are made of
these names.

What is proved:
  1. `unspaced_typeName`: no type name has white space.
  2. `FieldKind`: what the types of fields look like, for columns (`fieldKind_fieldType`) and for
     relations (`fieldKind_listType`).
  3. `oneLine_columnTag`, `oneLine_tableTag`: tags of such names have no line break.
-/

namespace RowTypes

open Text

/-- No name in the column holds white space. -/
structure Column.Unspaced (column : Column) : Prop where
  name : Text.Unspaced column.name.toList
  target : column.foreignKey → Text.Unspaced column.target.schema.toList ∧
    Text.Unspaced column.target.table.toList ∧ Text.Unspaced column.target.column.toList

/-- No name in the table holds white space. -/
structure Table.Unspaced (table : Table) : Prop where
  schema : Text.Unspaced table.schema.toList
  name : Text.Unspaced table.name.toList
  columns : ∀ column ∈ table.columns, column.Unspaced

/-- No name and no suffix holds white space. -/
structure Catalog.Unspaced (cat : Catalog) : Prop where
  suffix : Text.Unspaced cat.config.suffix.toList
  overrides : ∀ entry ∈ cat.config.tables, Text.Unspaced (entry.2.suffix.getD "").toList
  tables : ∀ table ∈ cat.tables, table.Unspaced

instance (column : Column) : Decidable column.Unspaced :=
  decidable_of_iff (Text.Unspaced column.name.toList ∧
      (column.foreignKey → Text.Unspaced column.target.schema.toList ∧
        Text.Unspaced column.target.table.toList ∧ Text.Unspaced column.target.column.toList))
    ⟨fun ⟨name, target⟩ => ⟨name, target⟩, fun ⟨name, target⟩ => ⟨name, target⟩⟩

instance (table : Table) : Decidable table.Unspaced :=
  decidable_of_iff (Text.Unspaced table.schema.toList ∧ Text.Unspaced table.name.toList ∧
      ∀ column ∈ table.columns, column.Unspaced)
    ⟨fun ⟨schema, name, columns⟩ => ⟨schema, name, columns⟩,
      fun ⟨schema, name, columns⟩ => ⟨schema, name, columns⟩⟩

instance (cat : Catalog) : Decidable cat.Unspaced :=
  decidable_of_iff (Text.Unspaced cat.config.suffix.toList ∧
      (∀ entry ∈ cat.config.tables, Text.Unspaced (entry.2.suffix.getD "").toList) ∧
      ∀ table ∈ cat.tables, table.Unspaced)
    ⟨fun ⟨suffix, overrides, tables⟩ => ⟨suffix, overrides, tables⟩,
      fun ⟨suffix, overrides, tables⟩ => ⟨suffix, overrides, tables⟩⟩

/-- The text has no line feed. -/
def OneLine (s : String) : Prop :=
  '\n' ∉ s.toList

instance (s : String) : Decidable (OneLine s) :=
  inferInstanceAs (Decidable ('\n' ∉ s.toList))

/-- What the type of a field looks like: it has no white space and cannot be taken for the keyword of
an import clause. -/
structure FieldKind (type : String) : Prop where
  unspaced : Text.Unspaced type.toList
  head : type = "int" ∨ type.toList.head?.any (· != 'i')

section Breaks

@[simp] theorem oneLine_append {s t : String} : OneLine (s ++ t) ↔ OneLine s ∧ OneLine t := by
  simp [OneLine, not_or]

theorem oneLine_of_unspaced {s : String} (h : Text.Unspaced s.toList) : OneLine s :=
  fun hmem => h '\n' hmem (by decide)

theorem oneLine_intercalate {sep : String} {parts : List String} (hsep : OneLine sep)
    (h : ∀ part ∈ parts, OneLine part) : OneLine (sep.intercalate parts) := by
  induction parts with
  | nil => simp [OneLine]
  | cons part rest ih =>
    have hrest := ih fun other hother => h other (List.mem_cons_of_mem _ hother)
    have hpart := h part List.mem_cons_self
    cases rest with
    | nil => simpa [OneLine] using hpart
    | cons next rest =>
      simp only [OneLine, String.toList_intercalate, List.map_cons,
        List.intercalate_cons_cons, List.mem_append, not_or] at hsep hpart hrest ⊢
      exact ⟨⟨hpart, hsep⟩, hrest⟩

end Breaks

section Names
variable {cat : Catalog} {table : Table} {column : Column}

theorem mem_of_lookup {key : String} {own : TableConfig} {entries : List (String × TableConfig)}
    (h : entries.lookup key = some own) : (key, own) ∈ entries := by
  obtain ⟨before, after, hsplit, -⟩ := List.lookup_eq_some_iff.mp h
  simp [hsplit]

theorem unspaced_options_suffix (h : cat.Unspaced) (table : Table) :
    Text.Unspaced (cat.options table).suffix.toList := by
  have hown : ∀ suffix, ((cat.config.find? table).getD {}).suffix = some suffix →
      Text.Unspaced suffix.toList := by
    intro suffix hsuffix
    cases hfind : cat.config.find? table with
    | none => simp [hfind] at hsuffix
    | some own =>
      have hmem : ∃ key, (key, own) ∈ cat.config.tables := by
        rw [Config.find?, Option.orElse_eq_orElse, Option.orElse_eq_or] at hfind
        rcases Option.or_eq_some_iff.mp hfind with hlookup | ⟨-, hlookup⟩
        · exact ⟨_, mem_of_lookup hlookup⟩
        · exact ⟨_, mem_of_lookup hlookup⟩
      obtain ⟨key, hentry⟩ := hmem
      have hsuffix : own.suffix = some suffix := by simpa [hfind] using hsuffix
      simpa [hsuffix] using h.overrides _ hentry
  simp only [Catalog.options, Config.resolve]
  unfold Config.resolveSuffix
  split
  · next text htext =>
    split
    · simp
    · split
      · exact h.suffix
      · exact hown text htext
  · exact h.suffix

/-- No type name has white space. -/
theorem unspaced_typeName (h : cat.Unspaced) (htable : table.Unspaced) :
    Text.Unspaced (cat.typeName table).toList :=
  Naming.unspaced_typeName htable.name (unspaced_options_suffix h table)

/-! ## Types of fields -/

theorem fieldKind_scalar (type : DataType) (nullable : Bool) :
    FieldKind (FieldType.scalar type nullable).name := by
  cases type <;> cases nullable <;> exact ⟨by decide, by decide⟩

theorem fieldKind_pointer {name : String} (h : Text.Unspaced name.toList) :
    FieldKind (FieldType.pointer name).name where
  unspaced := by
    rw [FieldType.pointer, String.toList_append]
    exact unspaced_append.mpr ⟨by decide, h⟩
  head := .inr (by simp [FieldType.pointer])

theorem fieldType_cases {type : FieldType} {issues : List Issue}
    (hok : cat.fieldType table column = .ok (type, issues)) :
    (∃ target ∈ cat.tables, type = FieldType.pointer (cat.typeName target)) ∨
      type = FieldType.scalar column.dataType column.nullable := by
  unfold Catalog.fieldType at hok
  dsimp only at hok
  split at hok
  · split at hok
    · next target hfind =>
      cases hok
      exact .inl ⟨target, List.mem_of_find?_eq_some hfind, rfl⟩
    · split at hok
      · simp at hok
      · cases hok
        exact .inr rfl
  · cases hok
    exact .inr rfl

theorem fieldKind_fieldType {type : FieldType} {issues : List Issue} (h : cat.Unspaced)
    (hok : cat.fieldType table column = .ok (type, issues)) : FieldKind type.name := by
  rcases fieldType_cases hok with ⟨target, htarget, rfl⟩ | rfl
  · exact fieldKind_pointer (unspaced_typeName h (h.tables target htarget))
  · exact fieldKind_scalar _ _

theorem fieldKind_listType {field : RelationField} (h : Text.Unspaced field.typeName.toList) :
    FieldKind field.listType where
  unspaced := by
    rw [RelationField.listType, String.toList_append]
    exact unspaced_append.mpr ⟨by decide, h⟩
  head := .inr (by simp [RelationField.listType])

/-! ## Tags -/

theorem unspaced_qualifyColumn {schema name column : String} (hschema : Text.Unspaced schema.toList)
    (hname : Text.Unspaced name.toList) (hcolumn : Text.Unspaced column.toList) :
    Text.Unspaced (qualifyColumn schema name column).toList := by
  have hdot : Text.Unspaced ".".toList := by decide
  unfold qualifyColumn qualify
  split <;> simp only [String.toList_append, unspaced_append] <;> simp_all

theorem oneLine_optionalPair {key value entry : String} (hkey : OneLine key) (hvalue : OneLine value)
    (h : entry ∈ Tag.optionalPair key value) : OneLine entry := by
  unfold Tag.optionalPair at h
  split at h
  · simp at h
  · rw [List.mem_singleton.mp h]
    simp [hkey, hvalue, show OneLine ":" by decide]

theorem oneLine_format {tag : ColumnTag} (hname : OneLine tag.name)
    (hforeign : OneLine tag.foreignKey) (hpointed : OneLine tag.pointedKey) :
    OneLine tag.format := by
  refine oneLine_intercalate (by decide) fun entry hentry => ?_
  simp only [ColumnTag.entries, List.mem_append] at hentry
  rcases hentry with (((hentry | hentry) | hentry) | hentry) | hentry
  · exact oneLine_optionalPair (by decide) hname hentry
  · split at hentry
    · rw [List.mem_singleton.mp hentry]
      decide
    · simp at hentry
  · split at hentry
    · rw [List.mem_singleton.mp hentry]
      decide
    · simp at hentry
  · exact oneLine_optionalPair (by decide) hforeign hentry
  · exact oneLine_optionalPair (by decide) hpointed hentry

theorem oneLine_columnTag (h : column.Unspaced) : OneLine (ColumnTag.ofColumn column).format := by
  refine oneLine_format (oneLine_of_unspaced h.name) ?_ (by simp [ColumnTag.ofColumn, OneLine])
  simp only [ColumnTag.ofColumn]
  split
  · next hkey =>
    obtain ⟨hschema, hname, hcolumn⟩ := h.target hkey
    exact oneLine_of_unspaced (unspaced_qualifyColumn hschema hname hcolumn)
  · decide

theorem oneLine_tableTag (h : table.Unspaced) :
    OneLine (TableTag.mk table.schema table.name).format := by
  simp only [TableTag.format, oneLine_append]
  exact ⟨⟨⟨by decide, oneLine_of_unspaced h.schema⟩, by decide⟩, oneLine_of_unspaced h.name⟩

/-! ## Relations -/

/-- What the names in a relation look like. -/
structure RelationField.Unspaced (field : RelationField) : Prop where
  fieldName : ∃ name : String, Text.Unspaced name.toList ∧ field.fieldName = Naming.fieldName name
  typeName : Text.Unspaced field.typeName.toList
  reference : Text.Unspaced field.reference.toList

theorem unspaced_of_mem_relations {field : RelationField} (h : cat.Unspaced)
    (hmem : field ∈ cat.relations table) : field.Unspaced := by
  unfold Catalog.relations at hmem
  split at hmem
  · obtain ⟨source, hsource, hfield⟩ := List.mem_flatMap.mp hmem
    obtain ⟨column, hcolumn, rfl⟩ := List.mem_map.mp hfield
    have htable := h.tables source hsource
    have hname := (htable.columns column (List.mem_filter.mp hcolumn).1).name
    exact ⟨⟨source.name, htable.name, rfl⟩, unspaced_typeName h htable,
      unspaced_qualifyColumn htable.schema htable.name hname⟩
  · simp at hmem

end Names

end RowTypes
