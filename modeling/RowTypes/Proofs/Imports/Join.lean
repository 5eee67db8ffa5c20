import RowTypes.Proofs.Imports.Order

/-!
Adding packages to a clause as a join. The clause that a merge writes is found by the next one with the
same entries, so a merge after a merge adds to what the first one left. The entries that come of it are
told by the old entries and the set of all packages, and so are the lines: neither the order of the
merges nor what they share shows in them.

What is proved:
  1. `Opening.merge_merge`: two merges give the lines of one with all packages.
  2. `merge_join`: so they do in either order, and the clause is found in the lines.
-/

namespace RowTypes.Imports

open ImportEntries

variable {before own : List String} {entries : ImportEntries} {first second all : Packages}

/-- A merge after a merge is one merge with the packages of both. -/
theorem Opening.merge_merge (h : Opening before own entries) (hquote : ∀ path ∈ first, '"' ∉ path.toList)
    (hall : ∀ path, path ∈ all ↔ path ∈ first ∨ path ∈ second) (after : List String) :
    merge (before ++ (widenedClause own entries first ++ after)) second =
      .ok (before ++ (widenedClause own entries all ++ after)) := by
  have hsame : ∀ path, path ∈ first ++ second ↔ path ∈ all := by
    intro path
    rw [List.mem_append, hall]
  calc merge (before ++ (widenedClause own entries first ++ after)) second
      = .ok (before ++ (widenedClause (widenedClause own entries first) (addPackages entries first) second ++
          after)) := (h.widen hquote).merge_eq second after
    _ = .ok (before ++ (widenedClause own entries (first ++ second) ++ after)) := by
      rw [widenedClause_append]
    _ = .ok (before ++ (widenedClause own entries all ++ after)) := by
      rw [widenedClause_congr own h.wellRead.sorted hsame]

/-- Merging packages into a clause is a join: two merges in either order and one with all packages give
the same lines. These are the lines from before, but for those of the clause. Where some packages were
added, a clause is found in them at the same start, and its entries are the old ones, with their aliases,
and plain ones for the packages that these lack. Of the old entries none may begin with two slashes, and
so none does without an alias or with an alias that is `_`, `.` or an identifier. -/
theorem merge_join {lines : List String} {clause : Clause} (hclause : find? lines = .ok (some clause))
    (hnames : ∀ entry ∈ clause.entries, ¬Commented entry) (hquote : ∀ path ∈ all, '"' ∉ path.toList)
    (hall : ∀ path, path ∈ all ↔ path ∈ first ∨ path ∈ second) :
    ∃ withFirst withSecond joined own,
      merge lines first = .ok withFirst ∧ merge withFirst second = .ok joined ∧
      merge lines second = .ok withSecond ∧ merge withSecond first = .ok joined ∧
      merge lines all = .ok joined ∧
      joined = replaceLines lines clause.start clause.stop own ∧ (all = [] → joined = lines) ∧
      (all ≠ [] → ∃ entries, IsUnion clause.entries all entries ∧
        find? joined = .ok (some ⟨clause.start, clause.start + own.length, entries⟩)) := by
  obtain ⟨before, own, after, rfl, -, hstart, hstop, hopening⟩ := exists_opening hclause hnames
  have hfirst : ∀ path ∈ first, '"' ∉ path.toList := fun path hpath =>
    hquote path ((hall path).mpr (.inl hpath))
  have hsecond : ∀ path ∈ second, '"' ∉ path.toList := fun path hpath =>
    hquote path ((hall path).mpr (.inr hpath))
  have hswap : ∀ path, path ∈ all ↔ path ∈ second ∨ path ∈ first := fun path => (hall path).trans or_comm
  refine ⟨_, _, _, widenedClause own clause.entries all, hopening.merge_eq first after,
    hopening.merge_merge hfirst hall after, hopening.merge_eq second after,
    hopening.merge_merge hsecond hswap after, hopening.merge_eq all after, ?_, ?_, fun _ => ?_⟩
  · rw [hstart, hstop, replaceLines_append]
  · intro hempty
    rw [widenedClause, if_pos hempty]
  · rw [hstart]
    exact ⟨_, isUnion_addPackages hopening.wellRead.sorted all, (hopening.widen hquote).found after⟩

/-- Lines with a driver that is imported for its side effects and a package by another name, between
comments. -/
def driverLines : List String :=
  ["package p", "", "import (", "\t_ \"lib\" // driver", "\t// names", "\tpq \"github.com/lib/pq\"", ")",
    "", "var x int"]

def driverClause : Clause :=
  ⟨2, 7, [entryOf "pq".toList "github.com/lib/pq".toList, entryOf "_".toList "lib".toList]⟩

theorem merge_join_driver : find? driverLines = .ok (some driverClause) ∧
    (∀ entry ∈ driverClause.entries, ¬Commented entry) ∧
    ∃ withTime joined own entries, merge driverLines ["time"] = .ok withTime ∧
      merge withTime ["database/sql", "lib"] = .ok joined ∧
      merge driverLines ["database/sql", "lib", "time"] = .ok joined ∧
      joined = replaceLines driverLines 2 7 own ∧
      IsUnion driverClause.entries ["database/sql", "lib", "time"] entries ∧
      find? joined = .ok (some ⟨2, 2 + own.length, entries⟩) := by
  have hclause : find? driverLines = .ok (some driverClause) := by decide +kernel
  have hnames : ∀ entry ∈ driverClause.entries, ¬Commented entry := by decide +kernel
  have hall (path : String) : path ∈ ["database/sql", "lib", "time"] ↔
      path ∈ ["time"] ∨ path ∈ ["database/sql", "lib"] := by
    simp only [List.mem_cons, List.not_mem_nil, or_false]
    tauto
  obtain ⟨withTime, _, joined, own, htime, hjoined, -, -, hmerge, hlines, -, hfound⟩ :=
    merge_join hclause hnames (by decide +kernel) hall
  obtain ⟨entries, hunion, hfind⟩ := hfound (by simp)
  exact ⟨hclause, hnames, withTime, joined, own, entries, htime, hjoined, hmerge, hlines, hunion, hfind⟩

end RowTypes.Imports
