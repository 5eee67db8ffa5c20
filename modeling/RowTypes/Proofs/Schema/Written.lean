import RowTypes.Proofs.Json.Records
import RowTypes.Schema.Decoding

/-!
Written schemas are read again. What a written column loses is not part of the schema it describes:
the facts of a system that is not known, and a reference that names neither a table nor a column.

What is proved:
  1. `VendorFacts.read?_members`: the facts of a known system are read as they were written.
  2. `Column.readShared?_toSharedJson`: a column that shares its object with them is read as
     `Column.written`, whatever texts it holds.
  3. `Table.readWith?_toJsonWith`: a table is read column by column.
  4. `Table.plain_toJsonWith`: every written table is a plain value.
-/

namespace RowTypes

open Json

/-! ## References and data types -/

theorem DataType.readShared?_name (kind : DataType) :
    DataType.readShared? (str kind.name) = some kind := by
  cases kind <;> decide

theorem KeyType.readKeyType?_name (key : KeyType) :
    VendorFacts.readKeyType? (str key.name) = some key := by
  cases key <;> decide

theorem Reference.read?_members (ref : Reference) :
    Reference.read? (ofMembers ref.members) = some ref := by
  have hfields : record? ["name", "schema", "column"] (ofMembers ref.members) = some ref.members :=
    record?_of_sublist (.refl _) (by decide)
  rw [Reference.read?, hfields]
  simp [members, Record.required, Record.optional, asString?, str, List.lookup_cons]

/-! ## Vendor facts -/

/-- The members of the facts of PostgreSQL, without the name of the system. -/
def PostgresFacts.members (facts : PostgresFacts) : List (String × Json) :=
  optionalMember "identity" (facts.identity.map str) ++
    ([("sequence_default", .bool facts.sequenceDefault), ("udt_name", str facts.udtName)] ++
    (optionalMember "character_max_length" (facts.characterMaxLength.map fun n => int n.toInt) ++
    (optionalMember "numeric_precision" (facts.numericPrecision.map fun n => int n.toInt) ++
    optionalMember "numeric_scale" (facts.numericScale.map fun n => int n.toInt))))

/-- The members of the facts of MariaDB, without the name of the system. -/
def MariadbFacts.members (facts : MariadbFacts) : List (String × Json) :=
  [("auto_increment", .bool facts.autoIncrement),
    ("data_type_length", int facts.dataTypeLength.toInt), ("key_type", str facts.keyType.name)]

theorem PostgresFacts.map_fst_members_sublist (facts : PostgresFacts) :
    (facts.members.map Prod.fst).Sublist ["identity", "sequence_default", "udt_name",
      "character_max_length", "numeric_precision", "numeric_scale"] := by
  simp only [members, List.map_append]
  exact map_fst_optionalMember_sublist.append (List.Sublist.append (.refl _)
    (map_fst_optionalMember_sublist.append (map_fst_optionalMember_sublist.append
      map_fst_optionalMember_sublist)))

namespace VendorFacts

variable {facts : VendorFacts} {members : List (String × Json)}

theorem members?_postgres (facts : PostgresFacts) :
    (postgres facts).members? = some (("engine", str "postgres") :: facts.members) := by
  simp [members?, PostgresFacts.members]

theorem members?_mariadb (facts : MariadbFacts) :
    (mariadb facts).members? = some (("engine", str "mariadb") :: facts.members) :=
  rfl

theorem takeEngine?_ofMembers {system : String} (h : "engine" ∉ members.map Prod.fst) :
    takeEngine? (ofMembers (("engine", str system) :: members)) =
      some (system, ofMembers members) := by
  have hothers : ∀ member ∈ keyed members, (member.1 == some "engine") = false := by
    intro member hmember
    obtain ⟨m, hm, rfl⟩ := List.mem_map.1 hmember
    have hne : m.1 ≠ "engine" := fun heq => h (List.mem_map.2 ⟨m, hm, heq⟩)
    simpa using hne
  have hparts : (keyed (("engine", str system) :: members)).partition
      (fun member => member.1 == some "engine") =
        ([(some "engine", str system)], keyed members) := by
    rw [List.partition_eq_filter_filter]
    change (List.filter _ ((some "engine", str system) :: keyed members),
      List.filter _ ((some "engine", str system) :: keyed members)) = _
    rw [List.filter_cons_of_pos (by simp), List.filter_eq_nil_iff.2 (by simpa using hothers),
      List.filter_cons_of_neg (by simp), List.filter_eq_self.2 (by simpa using hothers)]
  change takeEngine? (.object (keyed (("engine", str system) :: members))) = _
  rw [takeEngine?, hparts]
  rfl

theorem readPostgres?_members (facts : PostgresFacts) :
    readPostgres? (ofMembers facts.members) = some facts := by
  have hfields := record?_of_sublist facts.map_fst_members_sublist (by decide)
  have hidentity : facts.members.lookup "identity" = facts.identity.map str := by
    simp [PostgresFacts.members, List.lookup_append, List.lookup_cons]
  have hdefault : facts.members.lookup "sequence_default" = some (.bool facts.sequenceDefault) := by
    simp [PostgresFacts.members, List.lookup_append]
  have hudtName : facts.members.lookup "udt_name" = some (str facts.udtName) := by
    simp [PostgresFacts.members, List.lookup_append, List.lookup_cons]
  have hlength : facts.members.lookup "character_max_length" =
      facts.characterMaxLength.map fun n => int n.toInt := by
    simp [PostgresFacts.members, List.lookup_append, List.lookup_cons]
  have hprecision : facts.members.lookup "numeric_precision" =
      facts.numericPrecision.map fun n => int n.toInt := by
    simp [PostgresFacts.members, List.lookup_append, List.lookup_cons]
  have hscale : facts.members.lookup "numeric_scale" =
      facts.numericScale.map fun n => int n.toInt := by
    simp [PostgresFacts.members, List.lookup_append, List.lookup_cons]
  rw [readPostgres?, hfields]
  simp only [Option.bind_eq_bind, Option.bind_some, Record.optional_str_orNull hidentity,
    Record.optional_bool hdefault, Record.optional_str hudtName,
    Record.optional_int32_orNull hlength, Record.optional_int32_orNull hprecision,
    Record.optional_int32_orNull hscale]
  rfl

theorem read?_members (h : facts.members? = some members) :
    read? (ofMembers members) = some facts := by
  cases facts with
  | postgres facts =>
    rw [members?_postgres, Option.some.injEq] at h
    subst h
    have hengine : "engine" ∉ facts.members.map Prod.fst := fun hmem =>
      absurd (facts.map_fst_members_sublist.subset hmem) (by decide)
    rw [read?, takeEngine?_ofMembers hengine]
    simp only [readPostgres?_members, Option.map_some]
  | mariadb facts =>
    rw [members?_mariadb, Option.some.injEq] at h
    subst h
    have hfields : record? ["auto_increment", "data_type_length", "key_type"]
        (ofMembers facts.members) = some facts.members := record?_of_sublist (.refl _) (by decide)
    rw [read?, takeEngine?_ofMembers (by simp [MariadbFacts.members])]
    simp only [readMariadb?, hfields]
    simp [MariadbFacts.members, Record.optional, asBool?, List.lookup_cons, asInt64?_int,
      KeyType.readKeyType?_name]
  | other label => cases h

theorem written_members (h : facts.members? = some members) {levels : Nat} :
    Written (levels + 1) (ofMembers members) := by
  refine .ofMembers ?_
  cases facts with
  | postgres facts =>
    rw [members?_postgres, Option.some.injEq] at h
    subst h
    simp only [PostgresFacts.members, List.forall_mem_cons, List.forall_mem_append,
      forall_mem_optionalMember]
    simp [Written.str, Written.bool, Written.int32]
  | mariadb facts =>
    rw [members?_mariadb, Option.some.injEq] at h
    subst h
    simp [MariadbFacts.members, Written.str, Written.bool, Written.int64]
  | other label => cases h

/-- The facts that are written: those of a known system. -/
def known? : VendorFacts → Option VendorFacts
  | other _ => none
  | facts => some facts

theorem optional_vendor {record : Record} {vendor : Option VendorFacts}
    (h : record.lookup "vendor" = (vendor.bind members?).map ofMembers) :
    record.optional "vendor" none (orNull? read?) = some (vendor.bind known?) := by
  cases vendor with
  | none => exact Record.optional_of_missing h
  | some facts =>
    cases hmembers : facts.members? with
    | none =>
      have hknown : facts.known? = none := by
        cases facts with
        | other label => rfl
        | _ => cases hmembers
      rw [Option.bind_some, hknown]
      exact Record.optional_of_missing (by simpa only [Option.bind_some, hmembers, Option.map_none] using h)
    | some members =>
      have hknown : facts.known? = some facts := by
        cases facts with
        | other label => cases hmembers
        | _ => rfl
      rw [Option.bind_some, hknown]
      refine Record.optional_of_lookup (by simpa only [Option.bind_some, hmembers, Option.map_some] using h) ?_
      rw [Record.orNull?_of_ne_null (by simp [ofMembers]), read?_members hmembers, Option.map_some]

end VendorFacts

/-! ## Columns -/

namespace Column

/-- The column that is read where this one was written. -/
def written (column : Column) : Column :=
  { column with
    target := if column.target.isEmpty then {} else column.target
    vendor := column.vendor.bind VendorFacts.known? }

/-- The members of a column with what its database system says about it. -/
def sharedMembers (column : Column) : List (String × Json) :=
  column.members ++ optionalMember "vendor" ((column.vendor.bind VendorFacts.members?).map ofMembers)

theorem map_fst_sharedMembers_sublist (column : Column) :
    (column.sharedMembers.map Prod.fst).Sublist (fieldNames ++ ["vendor"]) := by
  simp only [sharedMembers, members, List.map_append]
  refine List.Sublist.append ?_ map_fst_optionalMember_sublist
  exact (((List.Sublist.append (.refl _) map_fst_optionalMember_sublist).append (.refl _)).append
    map_fst_optionalMember_sublist).append map_fst_optionalMember_sublist

theorem written_toSharedJson (column : Column) (levels : Nat) :
    Written (levels + 2) column.toSharedJson := by
  have htarget : Written (levels + 1) (ofMembers column.target.members) :=
    .ofMembers (by simp [Reference.members, Written.str])
  have hvendor : ∀ j ∈ (column.vendor.bind VendorFacts.members?).map ofMembers,
      Written (levels + 1) j := by
    intro j hj
    obtain ⟨members, hmembers, rfl⟩ := Option.map_eq_some_iff.1 hj
    obtain ⟨facts, -, hfacts⟩ := Option.bind_eq_some_iff.1 hmembers
    exact VendorFacts.written_members hfacts
  refine .ofMembers ?_
  simp only [members, List.forall_mem_append, forall_mem_optionalMember, List.forall_mem_cons]
  refine ⟨?_, hvendor⟩
  simp [Written.str, Written.bool, htarget]

theorem ofRecord?_sharedMembers (column : Column) :
    ofRecord? DataType.readShared? column.sharedMembers =
      some { column.written with vendor := none } := by
  have hname : column.sharedMembers.lookup "name" = some (str column.name) := by
    simp [sharedMembers, members]
  have hkind : column.sharedMembers.lookup "data_type" = some (str column.dataType.name) := by
    simp [sharedMembers, members, List.lookup_cons]
  have hnative : column.sharedMembers.lookup "internal_type" = some (str column.nativeType) := by
    simp [sharedMembers, members, List.lookup_cons]
  have hprimary : column.sharedMembers.lookup "primary_key" = some (.bool column.primaryKey) := by
    simp [sharedMembers, members, List.lookup_cons]
  have hforeign : column.sharedMembers.lookup "foreign_key" = some (.bool column.foreignKey) := by
    simp [sharedMembers, members, List.lookup_cons]
  have htarget : column.sharedMembers.lookup "foreign_key_column" =
      if column.target.isEmpty then none else some (ofMembers column.target.members) := by
    simp [sharedMembers, members, List.lookup_append, List.lookup_cons]
  have hnullable : column.sharedMembers.lookup "can_be_null" = some (.bool column.nullable) := by
    simp [sharedMembers, members, List.lookup_append, List.lookup_cons]
  have hdefault : column.sharedMembers.lookup "default_value" = column.defaultValue.map str := by
    simp [sharedMembers, members, List.lookup_append, List.lookup_cons]
  have hcomment : column.sharedMembers.lookup "comment" = column.comment.map str := by
    simp [sharedMembers, members, List.lookup_append, List.lookup_cons]
  have hreference : Record.optional column.sharedMembers "foreign_key_column" {} Reference.read? =
      some (if column.target.isEmpty then {} else column.target) := by
    split
    · next hempty => exact Record.optional_of_missing (by rw [htarget, if_pos hempty])
    · next hempty =>
      exact Record.optional_of_lookup (by rw [htarget, if_neg hempty]) (Reference.read?_members _)
  simp only [ofRecord?, Option.bind_eq_bind, Option.bind_some, Record.required_str hname,
    Record.optional_of_lookup hkind (DataType.readShared?_name _), Record.optional_str hnative,
    Record.optional_bool hprimary, Record.optional_bool hforeign, hreference,
    Record.optional_bool hnullable, Record.optional_str_orNull hdefault,
    Record.optional_str_orNull hcomment]
  rfl

/-- A column that shares its object with vendor facts is read where it is written. -/
theorem readShared?_toSharedJson (column : Column) {levels : Nat} :
    readShared? (levels + 1) column.toSharedJson = some column.written := by
  have hwritten : Written (levels + 2) column.toSharedJson := column.written_toSharedJson _
  have hfields : objectRecord? ("vendor" :: fieldNames) column.toSharedJson =
      some column.sharedMembers :=
    objectRecord?_of_sublist column.map_fst_sharedMembers_sublist (by decide) (by decide)
  have hvendor : column.sharedMembers.lookup "vendor" =
      (column.vendor.bind VendorFacts.members?).map ofMembers := by
    simp [sharedMembers, members, List.lookup_append, List.lookup_cons]
  rw [readShared?, hfields]
  simp only [hwritten.readable, hwritten.depth_le, decide_true, Bool.and_self, guard, if_true,
    Option.bind_eq_bind, Option.bind_some, Option.pure_def, ofRecord?_sharedMembers,
    VendorFacts.optional_vendor hvendor]
  rfl

end Column

/-! ## Tables -/

namespace Table

variable {writeColumn : Column → Json} {readColumn : Json → Option Column} {f : Column → Column}

/-- A table is read column by column. -/
theorem readWith?_toJsonWith (h : ∀ column, readColumn (writeColumn column) = some (f column))
    (table : Table) :
    readWith? readColumn (table.toJsonWith writeColumn) =
      some { table with columns := table.columns.map f } := by
  have hfields : record? ["name", "schema", "columns"] (table.toJsonWith writeColumn) =
      some [("name", str table.name), ("schema", str table.schema),
        ("columns", .array (table.columns.map writeColumn))] :=
    record?_of_sublist (.refl _) (by decide)
  rw [readWith?, hfields]
  simp [Record.required, Record.optional, asString?, str, List.lookup_cons, asList?_map h]

theorem plain_toJsonWith (h : ∀ column, Plain (writeColumn column)) (table : Table) :
    Plain (table.toJsonWith writeColumn) := by
  refine .object ?_
  simp only [List.forall_mem_cons]
  refine ⟨.str _, .str _, .array ?_, by simp⟩
  simpa using fun column _ => h column

end Table

end RowTypes
