import Mathlib.Data.List.Lex
import Mathlib.Order.Lattice
import RowTypes.Proofs.Block.Relations

/-!
Which place the check of a table set names. What makes a set inconsistent stands at spots, told by the
positions of a table and of one of its columns, and spots are ordered as they are read: a table before
its columns, the name of a column before its flag. The check goes from spot to spot and keeps that none
behind it is violated, so what it names is the first violation.

What is proved:
  1. `ClearBefore.next`, `ClearBefore.nextTable`: the step to the next spot and that to the next table.
  2. `finds_checkColumns`, `finds_checkTables`: what a whole scan finds.
  3. `consistent_iff_not_violation`: a set is consistent iff no spot is violated.
  4. `checkTables_eq_error_iff`, `Inconsistency.infix_message`: the check names the first violation,
     also in its text.
  5. `checkTables_finds_first`: this with what the check accepts, and look-ups in an accepted set.
-/

namespace RowTypes

/-- What is compared, by position: table `i` with the tables before it, the name of its column `j` with
the names before it, the flag of this column with its reference. -/
inductive Spot where
  | table (i : Nat)
  | name (i j : Nat)
  | flag (i j : Nat)
  deriving DecidableEq, Repr

namespace Spot

/-- The way to a spot, from the outside in. That to a flag goes on from the name of the column. -/
def path : Spot → List Nat
  | table i => [i]
  | name i j => [i, j]
  | flag i j => [i, j, 0]

theorem path_injective : Function.Injective path := by
  intro a b h
  cases a <;> cases b <;> simp_all [path]

/-- Reading order. A way comes before those that go on from it. -/
instance : LinearOrder Spot :=
  LinearOrder.lift' path path_injective

theorem lt_iff {a b : Spot} : a < b ↔ a.path < b.path :=
  Iff.rfl

/-- The spot that is read after this one, in a table that has another column. -/
def next : Spot → Spot
  | table i => name i 0
  | name i j => flag i j
  | flag i j => name i (j + 1)

/-- The position of the table that a spot belongs to. -/
def tableIndex : Spot → Nat
  | table i => i
  | name i _ => i
  | flag i _ => i

variable {a b : Spot}

theorem lt_next_iff : a < b.next ↔ a ≤ b := by
  rw [← not_lt, lt_iff, lt_iff]
  cases a <;> cases b <;> simp [next, path, List.cons_lt_cons_iff] <;> omega

/-- A table is read after all that belongs to earlier ones, and before all else. -/
theorem lt_table_iff {i : Nat} : a < table i ↔ a.tableIndex < i := by
  rw [lt_iff]
  cases a <;> simp [path, tableIndex, List.cons_lt_cons_iff]

end Spot

/-- The tables are not consistent at a spot, and what is to be said of it. -/
inductive Violation (tables : List Table) : Spot → Inconsistency → Prop
  | duplicateTable {i : Nat} {table : Table} (htable : tables[i]? = some table)
      (hkey : table.key ∈ (tables.take i).map Table.key) :
      Violation tables (.table i) (.duplicateTable table.qualifiedName)
  | duplicateColumn {i j : Nat} {table : Table} {column : Column} (htable : tables[i]? = some table)
      (hcolumn : table.columns[j]? = some column)
      (hname : column.name ∈ (table.columns.take j).map Column.name) :
      Violation tables (.name i j) (.duplicateColumn table.qualifiedName column.name)
  | keyFlag {i j : Nat} {table : Table} {column : Column} (htable : tables[i]? = some table)
      (hcolumn : table.columns[j]? = some column) (hflag : ¬ column.FlagFits) :
      Violation tables (.flag i j) (.keyFlag table.qualifiedName column.name)

/-- The names of the table and the column that an error is about. -/
def Inconsistency.names : Inconsistency → List String
  | duplicateTable table => [table]
  | duplicateColumn table column => [table, column]
  | keyFlag table column => [table, column]

/-- No spot before this one is violated. -/
def ClearBefore (tables : List Table) (spot : Spot) : Prop :=
  ∀ other place, Violation tables other place → spot ≤ other

/-- The first spot in reading order that is violated. -/
structure FirstViolation (tables : List Table) (spot : Spot) (place : Inconsistency) : Prop where
  violation : Violation tables spot place
  clear : ClearBefore tables spot

variable {tables : List Table} {spot : Spot} {place : Inconsistency} {i j : Nat} {table : Table}
  {column : Column}

/-! ## Violations -/

theorem violation_table_iff {before rest : List Table} (htables : tables = before ++ table :: rest) :
    Violation tables (.table before.length) place ↔
      table.key ∈ before.map Table.key ∧ place = .duplicateTable table.qualifiedName := by
  have htable : tables[before.length]? = some table := by simp [htables]
  have htake : tables.take before.length = before := by simp [htables]
  constructor
  · rintro (⟨hfound, hkey⟩ | _)
    obtain rfl := Option.some.inj (hfound.symm.trans htable)
    exact ⟨htake ▸ hkey, rfl⟩
  · rintro ⟨hkey, rfl⟩
    exact .duplicateTable htable (htake.symm ▸ hkey)

theorem violation_name_iff {before rest : List Column} (htable : tables[i]? = some table)
    (hcolumns : table.columns = before ++ column :: rest) :
    Violation tables (.name i before.length) place ↔ column.name ∈ before.map Column.name ∧
      place = .duplicateColumn table.qualifiedName column.name := by
  have hcolumn : table.columns[before.length]? = some column := by simp [hcolumns]
  have htake : table.columns.take before.length = before := by simp [hcolumns]
  constructor
  · rintro (_ | ⟨hfound, hother, hname⟩)
    obtain rfl := Option.some.inj (hfound.symm.trans htable)
    obtain rfl := Option.some.inj (hother.symm.trans hcolumn)
    exact ⟨htake ▸ hname, rfl⟩
  · rintro ⟨hname, rfl⟩
    exact .duplicateColumn htable hcolumn (htake.symm ▸ hname)

theorem violation_flag_iff (htable : tables[i]? = some table) (hcolumn : table.columns[j]? = some column) :
    Violation tables (.flag i j) place ↔
      ¬ column.FlagFits ∧ place = .keyFlag table.qualifiedName column.name := by
  constructor
  · rintro (_ | _ | ⟨hfound, hother, hflag⟩)
    obtain rfl := Option.some.inj (hfound.symm.trans htable)
    obtain rfl := Option.some.inj (hother.symm.trans hcolumn)
    exact ⟨hflag, rfl⟩
  · rintro ⟨hflag, rfl⟩
    exact .keyFlag htable hcolumn hflag

/-- The text of an error holds the names that it is about. -/
theorem Inconsistency.infix_message {name : String} (h : name ∈ place.names) :
    name.toList <:+: place.message.toList := by
  unfold message
  cases place with
  | duplicateTable table =>
    obtain rfl := List.mem_singleton.mp h
    rw [String.toList_append]
    exact (List.suffix_append _ _).isInfix
  | duplicateColumn table column =>
    simp only [String.toList_append]
    rcases List.mem_pair.mp h with rfl | rfl
    · exact (List.infix_append _ _ _).trans (List.prefix_append _ _).isInfix
    · exact (List.suffix_append _ _).isInfix
  | keyFlag table column =>
    simp only [String.toList_append]
    rcases List.mem_pair.mp h with rfl | rfl
    · apply (List.infix_append _ _ _).trans
      exact ((List.prefix_append _ _).trans (List.prefix_append _ _)).isInfix
    · exact List.infix_append _ _ _

theorem Violation.unique {other : Inconsistency} (h : Violation tables spot place)
    (hother : Violation tables spot other) : place = other := by
  cases h <;> cases hother <;> simp_all

theorem FirstViolation.unique {otherSpot : Spot} {other : Inconsistency}
    (h : FirstViolation tables spot place) (hother : FirstViolation tables otherSpot other) :
    place = other := by
  have hspot : spot = otherSpot :=
    le_antisymm (h.clear _ _ hother.violation) (hother.clear _ _ h.violation)
  subst hspot
  exact h.violation.unique hother.violation

theorem Violation.tableIndex_lt (h : Violation tables spot place) : spot.tableIndex < tables.length := by
  cases h with
  | duplicateTable htable | duplicateColumn htable | keyFlag htable =>
    exact (List.getElem?_eq_some_iff.mp htable).1

theorem Violation.lt_end (h : Violation tables spot place)
    (htable : tables[spot.tableIndex]? = some table) :
    spot < .name spot.tableIndex table.columns.length := by
  rw [Spot.lt_iff]
  cases h with
  | duplicateTable => simp [Spot.path, Spot.tableIndex]
  | duplicateColumn hfound hcolumn | keyFlag hfound hcolumn =>
    obtain rfl := Option.some.inj (hfound.symm.trans htable)
    have hlt := (List.getElem?_eq_some_iff.mp hcolumn).1
    simpa [Spot.path, Spot.tableIndex, List.cons_lt_cons_iff] using hlt

/-! ## The scan -/

theorem clearBefore_first : ClearBefore tables (.table 0) := by
  intro other place _
  rw [← not_lt, Spot.lt_table_iff]
  exact Nat.not_lt_zero _

/-- One step of the scan: a spot that is not violated is left behind. -/
theorem ClearBefore.next (h : ClearBefore tables spot) (hspot : ∀ place, ¬ Violation tables spot place) :
    ClearBefore tables spot.next := by
  intro other place hviolation
  rw [← not_lt, Spot.lt_next_iff]
  intro hle
  have heq : other = spot := le_antisymm hle (h other place hviolation)
  exact hspot place (heq ▸ hviolation)

/-- After its last column a table is left behind. -/
theorem ClearBefore.nextTable (h : ClearBefore tables (.name i table.columns.length))
    (htable : tables[i]? = some table) : ClearBefore tables (.table (i + 1)) := by
  intro other place hviolation
  rw [← not_lt, Spot.lt_table_iff]
  intro hindex
  have hbefore : other < .name i table.columns.length := by
    rcases (Nat.le_of_lt_succ hindex).lt_or_eq with hlt | rfl
    · exact (Spot.lt_table_iff.mpr hlt).trans (Spot.lt_iff.mpr (by simp [Spot.path]))
    · exact hviolation.lt_end htable
  exact (h other place hviolation).not_gt hbefore

theorem ClearBefore.not_violation (h : ClearBefore tables (.table tables.length)) :
    ¬ Violation tables spot place := by
  intro hviolation
  exact (h spot place hviolation).not_gt (Spot.lt_table_iff.mpr hviolation.tableIndex_lt)

/-- What a scan up to a spot finds: that nothing before it is violated, or the first violation. -/
def Finds (tables : List Table) (spot : Spot) : Except Inconsistency Unit → Prop
  | .ok () => ClearBefore tables spot
  | .error place => ∃ first, FirstViolation tables first place

/-- The scan of the columns of a table, from one of its columns on. The names of those before it have
been seen, the last one first. -/
theorem finds_checkColumns (before columns : List Column) (htable : tables[i]? = some table)
    (hcolumns : table.columns = before ++ columns) (hclear : ClearBefore tables (.name i before.length)) :
    Finds tables (.table (i + 1))
      (checkColumns table.qualifiedName (before.map Column.name).reverse columns) := by
  -- On the columns that are left; what is carried is that nothing is violated before the first of them.
  induction columns generalizing before with
  | nil =>
    have hlength : before.length = table.columns.length := by rw [hcolumns, List.append_nil]
    exact (hlength ▸ hclear).nextTable htable
  | cons column columns ih =>
    rw [checkColumns]
    by_cases hrepeated : column.name ∈ before.map Column.name
    · rw [if_pos (by simpa using hrepeated)]
      exact ⟨_, (violation_name_iff htable hcolumns).mpr ⟨hrepeated, rfl⟩, hclear⟩
    rw [if_neg (by simpa using hrepeated)]
    have hnamed : ClearBefore tables (.flag i before.length) :=
      hclear.next fun _ hviolation => hrepeated ((violation_name_iff htable hcolumns).mp hviolation).1
    have hcolumn : table.columns[before.length]? = some column := by simp [hcolumns]
    by_cases hfits : column.FlagFits
    · rw [if_neg (by simp [Column.flagFits_iff.mp hfits])]
      have hflagged : ClearBefore tables (.name i (before.length + 1)) :=
        hnamed.next fun _ hviolation => ((violation_flag_iff htable hcolumn).mp hviolation).1 hfits
      simpa using ih (before ++ [column]) (by simp [hcolumns]) (by simpa using hflagged)
    · rw [if_pos (by simpa [Column.flagFits_iff] using hfits)]
      exact ⟨_, (violation_flag_iff htable hcolumn).mpr ⟨hfits, rfl⟩, hnamed⟩

/-- The scan of the tables, from one of them on. The keys of those before it have been seen. -/
theorem finds_checkTablesAfter (before rest : List Table) (htables : tables = before ++ rest)
    (hclear : ClearBefore tables (.table before.length)) :
    Finds tables (.table tables.length) (checkTablesAfter (before.map Table.key).reverse rest) := by
  induction rest generalizing before with
  | nil =>
    have hlength : before.length = tables.length := by rw [htables, List.append_nil]
    exact hlength ▸ hclear
  | cons table rest ih =>
    rw [checkTablesAfter]
    change Finds tables _ (if List.contains _ table.key then _ else _)
    by_cases hrepeated : table.key ∈ before.map Table.key
    · rw [if_pos (by simpa using hrepeated)]
      exact ⟨_, (violation_table_iff htables).mpr ⟨hrepeated, rfl⟩, hclear⟩
    rw [if_neg (by simpa using hrepeated)]
    have hkeyed : ClearBefore tables (.name before.length 0) :=
      hclear.next fun _ hviolation => hrepeated ((violation_table_iff htables).mp hviolation).1
    have htable : tables[before.length]? = some table := by simp [htables]
    -- The columns are a scan of their own, which ends before the next table.
    have hcolumns : Finds tables (.table (before.length + 1))
        (checkColumns table.qualifiedName [] table.columns) :=
      finds_checkColumns [] table.columns htable rfl hkeyed
    cases hcheck : checkColumns table.qualifiedName [] table.columns with
    | error place =>
      rw [hcheck] at hcolumns
      exact hcolumns
    | ok _ =>
      rw [hcheck] at hcolumns
      have hbehind : ClearBefore tables (.table (before ++ [table]).length) := by
        rw [List.length_append]
        exact hcolumns
      simpa [Table.key] using ih (before ++ [table]) (by simp [htables]) hbehind

/-- The check stops at the first violation, or has gone through all tables without one. -/
theorem finds_checkTables (tables : List Table) :
    Finds tables (.table tables.length) (checkTables tables) :=
  finds_checkTablesAfter [] tables rfl clearBefore_first

/-! ## What the check says -/

/-- A set is consistent if no spot is violated, and only then. -/
theorem consistent_iff_not_violation :
    Consistent tables ↔ ∀ spot place, ¬ Violation tables spot place := by
  rw [← checkTables_eq_ok_iff]
  have hfinds := finds_checkTables tables
  cases hcheck : checkTables tables with
  | ok _ =>
    rw [hcheck] at hfinds
    exact iff_of_true rfl fun _ _ => ClearBefore.not_violation hfinds
  | error place =>
    rw [hcheck] at hfinds
    obtain ⟨first, hfirst⟩ := hfinds
    exact iff_of_false nofun fun hnone => hnone first place hfirst.violation

/-- The error of the check is the first violation. -/
theorem checkTables_eq_error_iff :
    checkTables tables = .error place ↔ ∃ spot, FirstViolation tables spot place := by
  have hfinds := finds_checkTables tables
  constructor
  · intro hcheck
    rw [hcheck] at hfinds
    exact hfinds
  · rintro ⟨spot, hfirst⟩
    cases hcheck : checkTables tables with
    | ok _ =>
      have hconsistent := checkTables_eq_ok_iff.mp hcheck
      exact absurd hfirst.violation (consistent_iff_not_violation.mp hconsistent spot place)
    | error other =>
      rw [hcheck] at hfinds
      obtain ⟨otherSpot, hother⟩ := hfinds
      rw [hother.unique hfirst]

theorem Consistent.eq_of_key_eq (h : Consistent tables) {other : Table}
    (htable : tables[i]? = some table) (hother : tables[j]? = some other) (hkey : table.key = other.key) :
    i = j := by
  have hlt : i < (tables.map Table.key).length := by
    rw [List.length_map]
    exact (List.getElem?_eq_some_iff.mp htable).1
  apply (List.getElem?_inj hlt h.nodup).mp
  rw [List.getElem?_map, List.getElem?_map, htable, hother, Option.map_some, Option.map_some, hkey]

/-- The check accepts the consistent sets, and of any other it names the first violation in reading
order, with a text that holds the names of its table and its column. In an accepted set the look-up of a
schema and a name gives the table that has them, wherever it stands, and no other position has a table
with them. -/
theorem checkTables_finds_first (tables : List Table) :
    (checkTables tables = .ok () ↔ Consistent tables) ∧
      (∀ place, (checkTables tables = .error place ↔ ∃ spot, FirstViolation tables spot place) ∧
        ∀ name ∈ place.names, name.toList <:+: place.message.toList) ∧
      (checkTables tables = .ok () → ∀ (config : Config) (schema name : String),
        (∀ table, (Catalog.mk config tables).find? schema name = some table ↔
          table ∈ tables ∧ table.key = (schema, name)) ∧
        ∀ (i j : Nat) (table other : Table), tables[i]? = some table → tables[j]? = some other →
          table.key = (schema, name) → other.key = (schema, name) → i = j) := by
  refine ⟨checkTables_eq_ok_iff, ?_, ?_⟩
  · intro place
    exact ⟨checkTables_eq_error_iff, fun name hname => Inconsistency.infix_message hname⟩
  intro hcheck config schema name
  have hconsistent := checkTables_eq_ok_iff.mp hcheck
  constructor
  · intro table
    exact Consistent.find?_eq_some_iff hconsistent
  · intro i j table other htable hother hkey hotherKey
    exact hconsistent.eq_of_key_eq htable hother (hkey.trans hotherKey.symm)

/-- A flag without a reference stands before a column that is wrong in both ways. -/
def flaggedStaff : Table :=
  { schema := "b", name := "staff"
    columns := [{ name := "id" }, { name := "boss", foreignKey := true },
      { name := "id", foreignKey := true }] }

theorem checkTables_finds_first_staff :
    checkTables [Catalog.staff, Catalog.otherStaff] = .ok () ∧
    (Catalog.mk {} [Catalog.staff, Catalog.otherStaff]).find? "b" "staff" = some Catalog.otherStaff ∧
    (∃ spot, FirstViolation [Catalog.staff, flaggedStaff, Catalog.staff] spot (.keyFlag "b.staff" "boss")) ∧
    "boss".toList <:+: (Inconsistency.keyFlag "b.staff" "boss").message.toList := by
  obtain ⟨-, -, hfind⟩ := checkTables_finds_first [Catalog.staff, Catalog.otherStaff]
  obtain ⟨-, herror, -⟩ := checkTables_finds_first [Catalog.staff, flaggedStaff, Catalog.staff]
  have hcheck : checkTables [Catalog.staff, Catalog.otherStaff] = .ok () := by decide +kernel
  refine ⟨hcheck, ?_, ?_, ?_⟩
  · exact ((hfind hcheck {} "b" "staff").1 Catalog.otherStaff).mpr ⟨by simp, rfl⟩
  · exact (herror _).1.mp (by decide +kernel)
  · exact (herror _).2 "boss" (by simp [Inconsistency.names])

end RowTypes
