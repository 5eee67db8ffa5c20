import Mathlib.Data.List.Basic
import Mathlib.Data.List.Perm.Basic
import RowTypes.Run.Basic

/-!
The groups of some tables. There is one group for each path, in the order in which the paths come up
first, and it has the tables whose paths are spelled like its path, in their order. So a group can be
told from its tables: just these tables form just this group.

What is proved:
  1. `samePath_iff`: two texts spell one path iff they start and go on alike.
  2. `fileGroups_eq`, `fileGroups_perm`: the groups, one for each path, and that they part the tables.
  3. `fileGroups_tables`: the tables of a group form this group.
-/

namespace RowTypes

namespace Storage

variable {a b c : String}

theorem samePath_iff : samePath a b ↔
    (Path.ofString a).start = (Path.ofString b).start ∧
      (Path.ofString a).steps = (Path.ofString b).steps := by
  simp [samePath]

theorem samePath_refl (a : String) : samePath a a :=
  samePath_iff.mpr ⟨rfl, rfl⟩

theorem samePath_symm (h : samePath a b) : samePath b a := by
  rw [samePath_iff] at h ⊢
  exact ⟨h.1.symm, h.2.symm⟩

theorem samePath_trans (h : samePath a b) (h' : samePath b c) : samePath a c := by
  rw [samePath_iff] at h h' ⊢
  exact ⟨h.1.trans h'.1, h.2.trans h'.2⟩

end Storage

open Storage

namespace FileGroup

variable {pathOf : Table → String} {tables rest : List Table} {groups : List FileGroup}
  {group : FileGroup} {table : Table} {path : String}

/-- The tables with a path. -/
def ofPath (pathOf : Table → String) (tables : List Table) (path : String) : FileGroup :=
  ⟨path, tables.filter fun table => samePath path (pathOf table)⟩

/-- The tables with other paths. -/
def others (pathOf : Table → String) (tables : List Table) (path : String) : List Table :=
  tables.filter fun table => !samePath path (pathOf table)

/-- The paths of some tables, each where it comes up first. -/
def firstPaths (pathOf : Table → String) (tables : List Table) : List String :=
  (tables.map pathOf).eraseDupsBy samePath

/-! ## The path of the first table, and the other paths -/

theorem others_induction {motive : List Table → Prop} (nil : motive [])
    (cons : ∀ table rest, motive (others pathOf rest (pathOf table)) → motive (table :: rest)) :
    ∀ tables, motive tables
  | [] => nil
  | table :: rest => cons table rest (others_induction nil cons (others pathOf rest (pathOf table)))
termination_by tables => tables.length
decreasing_by exact Nat.lt_succ_of_le (List.length_filter_le _ _)

theorem mem_others : table ∈ others pathOf tables path ↔
    table ∈ tables ∧ ¬samePath path (pathOf table) := by
  simp [others, List.mem_filter]

theorem firstPaths_cons (table : Table) (rest : List Table) : firstPaths pathOf (table :: rest) =
    pathOf table :: firstPaths pathOf (others pathOf rest (pathOf table)) := by
  have hsame : (fun other => decide (samePath other (pathOf table) = false)) =
      fun other => !samePath (pathOf table) other := by
    funext other
    rw [Bool.eq_iff_iff]
    simp only [decide_eq_true_eq, Bool.not_eq_true', Bool.eq_false_iff, ne_eq]
    exact not_congr ⟨samePath_symm, samePath_symm⟩
  rw [firstPaths, List.map_cons, List.eraseDupsBy_cons, hsame, List.filter_map]
  rfl

theorem ofPath_others {other : String} (h : ¬samePath path other) :
    ofPath pathOf (others pathOf tables path) other = ofPath pathOf tables other := by
  rw [ofPath, others, List.filter_filter, ofPath]
  congr 1
  refine List.filter_congr fun table _ => ?_
  by_cases hother : samePath other (pathOf table)
  · have hpath : ¬samePath path (pathOf table) := fun hpath =>
      h (samePath_trans hpath (samePath_symm hother))
    simp [hother, hpath]
  · simp [hother]

theorem ofPath_self :
    ofPath pathOf (ofPath pathOf tables path).tables path = ofPath pathOf tables path := by
  simp [ofPath]

theorem tables_ofPath_cons (table : Table) (rest : List Table) :
    (ofPath pathOf (table :: rest) (pathOf table)).tables =
      table :: (ofPath pathOf rest (pathOf table)).tables := by
  simp [ofPath, samePath_refl]

theorem ofPath_cons_of_not {other : String} (h : ¬samePath other (pathOf table)) :
    ofPath pathOf (table :: rest) other = ofPath pathOf rest other := by
  simp [ofPath, h]

theorem exists_of_mem_firstPaths : ∀ path ∈ firstPaths pathOf tables,
    ∃ first rest, (ofPath pathOf tables path).tables = first :: rest ∧ pathOf first = path := by
  induction tables using others_induction with
  | nil => simp [firstPaths]
  | cons table rest ih =>
    intro path hpath
    rw [firstPaths_cons] at hpath
    rcases List.mem_cons.mp hpath with rfl | hmem
    · exact ⟨table, _, tables_ofPath_cons table rest, rfl⟩
    · obtain ⟨first, more, hfirst, hpathOf⟩ := ih path hmem
      have hmember : first ∈ (ofPath pathOf (others pathOf rest (pathOf table)) path).tables := by
        rw [hfirst]
        exact List.mem_cons_self
      have hnot : ¬samePath (pathOf table) path :=
        hpathOf ▸ (mem_others.mp (List.mem_of_mem_filter hmember)).2
      refine ⟨first, more, ?_, hpathOf⟩
      rw [ofPath_cons_of_not fun h => hnot (samePath_symm h), ← ofPath_others hnot, hfirst]

theorem not_samePath_of_mem (h : path ∈ firstPaths pathOf (others pathOf tables (pathOf table))) :
    ¬samePath (pathOf table) path := by
  obtain ⟨first, rest, hfirst, rfl⟩ := exists_of_mem_firstPaths path h
  have hmember : first ∈ (ofPath pathOf (others pathOf tables (pathOf table)) (pathOf first)).tables := by
    rw [hfirst]
    exact List.mem_cons_self
  exact (mem_others.mp (List.mem_of_mem_filter hmember)).2

theorem firstPaths_distinct (pathOf : Table → String) (tables : List Table) :
    (firstPaths pathOf tables).Pairwise fun path other => ¬samePath path other := by
  induction tables using others_induction with
  | nil => exact .nil
  | cons table rest ih =>
    rw [firstPaths_cons]
    exact List.pairwise_cons.mpr ⟨fun other hother => not_samePath_of_mem hother, ih⟩

/-! ## The groups -/

/-- The first group takes the tables with its path, and the others come into the groups behind it. -/
theorem foldl_insert_cons (group : FileGroup) (groups : List FileGroup) (rest : List Table) :
    rest.foldl (fun groups table => insert (pathOf table) table groups) (group :: groups) =
      ⟨group.path, group.tables ++ (ofPath pathOf rest group.path).tables⟩ ::
        (others pathOf rest group.path).foldl
          (fun groups table => insert (pathOf table) table groups) groups := by
  induction rest generalizing group groups with
  | nil => simp [ofPath, others]
  | cons table rest ih =>
    rw [List.foldl_cons, insert]
    by_cases hsame : samePath group.path (pathOf table)
    · rw [if_pos hsame, ih]
      simp [ofPath, others, hsame]
    · rw [if_neg hsame, ih]
      simp [ofPath, others, hsame]

theorem foldl_insert (pathOf : Table → String) (tables : List Table) :
    tables.foldl (fun groups table => insert (pathOf table) table groups) [] =
      (firstPaths pathOf tables).map (ofPath pathOf tables) := by
  induction tables using others_induction with
  | nil => rfl
  | cons table rest ih =>
    have hfirst : ofPath pathOf (table :: rest) (pathOf table) =
        ⟨pathOf table, [table] ++ (ofPath pathOf rest (pathOf table)).tables⟩ :=
      congrArg (FileGroup.mk _) (tables_ofPath_cons table rest)
    have hrest : (firstPaths pathOf (others pathOf rest (pathOf table))).map
        (ofPath pathOf (others pathOf rest (pathOf table))) =
          (firstPaths pathOf (others pathOf rest (pathOf table))).map
            (ofPath pathOf (table :: rest)) := by
      refine List.map_congr_left fun path hpath => ?_
      have hnot := not_samePath_of_mem hpath
      rw [ofPath_others hnot, ofPath_cons_of_not fun h => hnot (samePath_symm h)]
    rw [List.foldl_cons, insert, foldl_insert_cons, ih, firstPaths_cons, List.map_cons, hfirst, hrest]

theorem flatMap_ofPath_perm (pathOf : Table → String) (tables : List Table) :
    ((firstPaths pathOf tables).flatMap fun path => (ofPath pathOf tables path).tables).Perm
      tables := by
  induction tables using others_induction with
  | nil => rfl
  | cons table rest ih =>
    have hrest : (firstPaths pathOf (others pathOf rest (pathOf table))).flatMap
        (fun path => (ofPath pathOf (table :: rest) path).tables) =
          (firstPaths pathOf (others pathOf rest (pathOf table))).flatMap fun path =>
            (ofPath pathOf (others pathOf rest (pathOf table)) path).tables := by
      refine List.flatMap_congr fun path hpath => ?_
      have hnot := not_samePath_of_mem hpath
      rw [ofPath_others hnot, ofPath_cons_of_not fun h => hnot (samePath_symm h)]
    rw [firstPaths_cons, List.flatMap_cons, tables_ofPath_cons, hrest, List.cons_append]
    exact .cons _ ((ih.append_left _).trans (List.filter_append_perm _ rest))

end FileGroup

namespace Catalog

open FileGroup

variable {cat : Catalog} {tables : List Table} {group : FileGroup}

/-- The path of the file that a table is written to. -/
def pathOf (cat : Catalog) (table : Table) : String :=
  (cat.options table).path

/-- There is one group for each path. -/
theorem fileGroups_eq (cat : Catalog) (tables : List Table) : cat.fileGroups tables =
    (firstPaths cat.pathOf tables).map (ofPath cat.pathOf tables) :=
  foldl_insert cat.pathOf tables

/-- The groups part the tables. -/
theorem fileGroups_perm (cat : Catalog) (tables : List Table) :
    ((cat.fileGroups tables).flatMap (·.tables)).Perm tables := by
  rw [fileGroups_eq, List.flatMap_map]
  exact flatMap_ofPath_perm cat.pathOf tables

theorem fileGroups_distinct (cat : Catalog) (tables : List Table) :
    (cat.fileGroups tables).Pairwise fun group other => ¬samePath group.path other.path := by
  rw [fileGroups_eq, List.pairwise_map]
  exact firstPaths_distinct cat.pathOf tables

theorem mem_group_iff (h : group ∈ cat.fileGroups tables) (table : Table) :
    table ∈ group.tables ↔ table ∈ tables ∧ samePath group.path (cat.options table).path := by
  rw [fileGroups_eq] at h
  obtain ⟨path, -, rfl⟩ := List.mem_map.mp h
  exact List.mem_filter

/-- The tables of a group form this group, and no other. -/
theorem fileGroups_tables (h : group ∈ cat.fileGroups tables) :
    cat.fileGroups (tables.filter (· ∈ group.tables)) = [group] := by
  have hmem := mem_group_iff h
  rw [fileGroups_eq] at h
  obtain ⟨path, hpath, rfl⟩ := List.mem_map.mp h
  have hfilter : tables.filter (· ∈ (ofPath cat.pathOf tables path).tables) =
      (ofPath cat.pathOf tables path).tables := by
    refine List.filter_congr fun table htable => ?_
    rw [Bool.eq_iff_iff, decide_eq_true_eq, hmem]
    exact and_iff_right htable
  rw [hfilter]
  obtain ⟨first, rest, hfirst, rfl⟩ := exists_of_mem_firstPaths path hpath
  have hsame : ∀ table ∈ rest, samePath (cat.pathOf first) (cat.pathOf table) := by
    intro table htable
    refine ((hmem table).mp ?_).2
    rw [hfirst]
    exact List.mem_cons_of_mem _ htable
  have hothers : others cat.pathOf rest (cat.pathOf first) = [] := by
    rw [List.eq_nil_iff_forall_not_mem]
    exact fun table htable => (mem_others.mp htable).2 (hsame table (mem_others.mp htable).1)
  calc cat.fileGroups (ofPath cat.pathOf tables (cat.pathOf first)).tables
    _ = (firstPaths cat.pathOf (ofPath cat.pathOf tables (cat.pathOf first)).tables).map
          (ofPath cat.pathOf (ofPath cat.pathOf tables (cat.pathOf first)).tables) :=
        cat.fileGroups_eq _
    _ = [ofPath cat.pathOf (ofPath cat.pathOf tables (cat.pathOf first)).tables
          (cat.pathOf first)] := by
        rw [hfirst, firstPaths_cons, hothers]
        rfl
    _ = [ofPath cat.pathOf tables (cat.pathOf first)] := by
        rw [ofPath_self]

end Catalog

end RowTypes
