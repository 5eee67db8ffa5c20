import RowTypes.Proofs.Block.Names
import RowTypes.Proofs.Run.Fresh

/-!
The identifiers of a file. The blocks of a group declare structs and constants side by side. A struct
repeats a field only if this is reported, and then the constants of all blocks differ, since the type
names of a group do.

What is proved:
  1. `nodup_typeNames`: the blocks of a group that is merged have different type names.
  2. `identifiers_unique`: which names are declared, when they differ, and how often it is reported that
     they do not.
-/

namespace RowTypes.Catalog

open Block

variable {cat : Catalog} {tables : List Table} {owners : List (String × String)} {text : String}
  {merges : List TableMerge}

/-- The tables of a group are merged in their order, and no type name comes up twice. -/
theorem nodup_typeNames (h : cat.mergeTables owners text tables = .ok merges) :
    merges.map (·.table) = tables ∧ (tables.map cat.typeName).Nodup ∧
      ∀ table ∈ tables, owners.lookup (cat.typeName table) = none := by
  induction tables generalizing owners text merges with
  | nil =>
    cases h
    simp
  | cons table tables ih =>
    obtain ⟨first, rest, rfl, hfirst, hrest⟩ := exists_of_mergeTables_cons h
    obtain ⟨rfl, howner, hinto⟩ := mergeTable_ok hfirst
    obtain ⟨htables, hnodup, howners⟩ := ih hrest
    rw [typeName_of_render hinto.rendered] at howner howners
    have hother : ∀ other ∈ tables, cat.typeName other ≠ cat.typeName first.table ∧
        owners.lookup (cat.typeName other) = none := by
      intro other hmem
      have hlookup := howners other hmem
      rw [List.lookup_cons] at hlookup
      split at hlookup
      · cases hlookup
      · next hne => exact ⟨by simpa using hne, hlookup⟩
    refine ⟨by rw [List.map_cons, htables], ?_, ?_⟩
    · rw [List.map_cons, List.nodup_cons]
      refine ⟨fun hmem => ?_, hnodup⟩
      obtain ⟨other, hmem, heq⟩ := List.mem_map.mp hmem
      exact (hother other hmem).1 heq
    · rw [List.forall_mem_cons]
      exact ⟨howner, fun other hmem => (hother other hmem).2⟩

theorem nodup_flatMap_constantNames (htypes : (tables.map cat.typeName).Nodup)
    (hfields : ∀ table ∈ tables, (cat.fieldNames table).Nodup) :
    (tables.flatMap cat.constantNames).Nodup := by
  rw [List.nodup_flatMap]
  refine ⟨fun table htable => nodup_constantNames (hfields table htable), ?_⟩
  exact (List.pairwise_map.mp htypes).imp fun hne => disjoint_constantNames hne

/-- A rendered block declares the fields and the constants of its table, and it is reported for each
field but the reserved one if another one before it has its name. If nothing is reported for the tables
of a file, then no struct of the file repeats a field, and no constant stands in it twice. -/
theorem identifiers_unique (cat : Catalog) :
    (∀ table block, cat.render table = .ok block →
      block.Declares (cat.structFields table) (cat.constantNames table) ∧
      (block.issues.filter fun issue => issue.code = .duplicateField).length +
        (cat.fieldNames table).dedup.length = (cat.fieldNames table).length) ∧
    ∀ original tables group, cat.mergeGroup original tables = .ok group →
      group.merges.map (·.table) = tables ∧
      ((∀ issue ∈ group.issues, issue.code ≠ .duplicateField) →
        (∀ table ∈ tables, (cat.structFields table).Nodup) ∧
          (tables.flatMap cat.constantNames).Nodup) := by
  refine ⟨fun table block h => ⟨declares_of_render h, length_duplicates h⟩, ?_⟩
  intro original tables group h
  obtain ⟨merges, hmerges, rfl⟩ := exists_of_mergeGroup h
  obtain ⟨htables, htypes, -⟩ := nodup_typeNames hmerges
  refine ⟨htables, fun hissues => ?_⟩
  have hfields : ∀ table ∈ tables, (cat.fieldNames table).Nodup := by
    intro table htable
    rw [← htables] at htable
    obtain ⟨merge, hmerge, rfl⟩ := List.mem_map.mp htable
    obtain ⟨done, rest, hsplit⟩ := List.append_of_mem hmerge
    apply nodup_fieldNames (mergeTables_step hmerges hsplit).2.2.2.rendered
    exact fun issue hissue => hissues issue (List.mem_flatMap.mpr ⟨merge, hmerge, hissue⟩)
  exact ⟨fun table htable => nodup_structFields (hfields table htable),
    nodup_flatMap_constantNames htypes hfields⟩

/-- Two tables whose names and columns have underscores at every place, with a suffix that has some. -/
def orders : Table :=
  { name := "_order__", columns := [{ name := "id_" }, { name := "of_id" }] }

def orderOf : Table :=
  { name := "order_of", columns := [{ name := "__id" }] }

/-- A table with two columns of one field name. -/
def twins : Table :=
  { name := "twins", columns := [{ name := "user_id" }, { name := "USER_ID_" }, { name := "id" }] }

def ordersCatalog : Catalog :=
  { config := { packageName := "p", suffix := "_of_" }, tables := [orders, orderOf] }

def ordersBlock (table : Table) : Block :=
  ordersCatalog.blockOf table (table.columns.map fun column => (column, .scalar .unknown false, []))

theorem identifiers_unique_orders :
    (ordersCatalog.render twins = .ok (ordersBlock twins) ∧
      ((ordersBlock twins).issues.filter fun issue => issue.code = .duplicateField).length = 1) ∧
    ∃ group, ordersCatalog.mergeGroup "" [orders, orderOf] = .ok group ∧
    (∀ issue ∈ group.issues, issue.code ≠ .duplicateField) ∧
    (∀ table ∈ [orders, orderOf], (ordersCatalog.structFields table).Nodup) ∧
    ([orders, orderOf].flatMap ordersCatalog.constantNames).Nodup ∧
    ([orders, orderOf].flatMap ordersCatalog.constantNames) =
      ["Order_of__Id", "Order_of__OfId", "OrderOf_of__Id"] := by
  obtain ⟨hblocks, hgroups⟩ := identifiers_unique ordersCatalog
  have htwins : ((ordersBlock twins).issues.filter fun issue => issue.code = .duplicateField).length =
      1 := by
    have hcount := (hblocks twins (ordersBlock twins) rfl).2
    have hdistinct : (ordersCatalog.fieldNames twins).dedup.length = 2 := by decide
    have hall : (ordersCatalog.fieldNames twins).length = 3 := by decide
    omega
  have hrenders : ordersCatalog.Renders [orders, orderOf] [ordersBlock orders, ordersBlock orderOf] :=
    .cons rfl (.cons rfl .nil)
  obtain ⟨merges, hmerges, -, -, hmerged, -⟩ := mergeTables_blank
    (show ordersCatalog.Unspaced by decide) (show ∀ table ∈ [orders, orderOf], table.Unspaced by decide)
    (show Text.Unspaced "p".toList by decide) hrenders (by decide)
    (show Text.isAllWhite "" from rfl)
  have hgroup : ordersCatalog.mergeGroup "" [orders, orderOf] = .ok ⟨"", merges⟩ := by
    rw [mergeGroup, hmerges]
    rfl
  have hissues : ∀ issue ∈ (GroupMerge.mk "" merges).issues, issue.code ≠ .duplicateField := by
    have hnone : (GroupMerge.mk "" merges).issues = [] := by
      have hissues : (GroupMerge.mk "" merges).issues = (merges.map (·.block)).flatMap (·.issues) := by
        rw [List.flatMap_map]
        rfl
      rw [hissues, hmerged]
      decide
    simp [hnone]
  obtain ⟨hfields, hconstants⟩ := (hgroups _ _ _ hgroup).2 hissues
  exact ⟨⟨rfl, htwins⟩, _, hgroup, hissues, hfields, hconstants, by decide⟩

end RowTypes.Catalog
