import RowTypes.Proofs.Storage.Writable

/-!
A write is done as a whole or not at all. It may stop where its directories are made, at a path without a
name, at the sibling, or where the sibling is moved; wherever it stops, no file is left that was not there.

What is proved:
  1. `outcome_writeAtomic`: the file is written, or its place is as before.
  2. `directory_writeAtomic`: the directories that are made are above the file.
  3. `writeAtomic_atomic`: all that a write leaves, whether it succeeds or not.
-/

namespace RowTypes.Storage

open Storage.Tree

/-- What a write of a file leaves, and how it ends. -/
structure Atomic (tree : Tree) (path : String) (content : ByteArray) (after : Tree)
    (result : Except IoError Unit) : Prop where
  /-- Where all stands in directories, it succeeds iff nothing is in the way. -/
  succeeds : tree.Sound → (result = .ok () ↔ ∃ name dir, (Path.ofString path).name? = some name ∧
    (Path.ofString path).parent? = some dir ∧ Writable tree path name dir)
  /-- The path reads as the content, or what stood at its place stands there as before. -/
  outcome : (result = .ok () ∧ after.readBytes path = .ok content) ∨
    ((∃ reason, result = .error reason) ∧
      after.get? (tree.place path) = tree.get? (tree.place path))
  /-- No other file appears, changes or goes away, except for the sibling. -/
  files : ∀ loc, loc ≠ tree.place path → siblingPlace? tree path ≠ some loc → ∀ old,
    after.get? loc = some (.file old) ↔ tree.get? loc = some (.file old)
  /-- A sibling that is left was there before. -/
  sibling : ∀ loc, siblingPlace? tree path = some loc → ∀ old,
    after.get? loc = some (.file old) → tree.get? loc = some (.file old)
  /-- All directories stay. -/
  kept : ∀ loc, tree.isDirectory loc → after.isDirectory loc
  /-- New directories are above the file, where nothing was. -/
  made : ∀ loc, after.isDirectory loc → tree.isDirectory loc ∨
    (tree.get? loc = none ∧ loc <+: tree.place path ∧ loc ≠ tree.place path)

variable {path : String} {tree : Tree}

theorem readBytes_of_writeAtomic {after : Tree} {content : ByteArray}
    (h : writeAtomic tree path content = (after, .ok ())) : after.readBytes path = .ok content := by
  obtain ⟨-, hlocate, hfile⟩ := writeAtomic_ok h
  simp only [readBytes, hlocate, hfile]

section
variable {after : Tree} {content : ByteArray} {result : Except IoError Unit}
  (hwrite : writeAtomic tree path content = (after, result))
include hwrite

theorem keeps_writeAtomic :
    Keeps (fun loc => loc = tree.place path ∨ siblingPlace? tree path = some loc) tree after := by
  cases result with
  | ok u => exact (writeAtomic_ok hwrite).1
  | error e => exact (writeAtomic_error hwrite).mono fun loc => Or.inr

variable (hlevel : Level path)
include hlevel

/-- The file has its content, or what stood at its place stands there as before. -/
theorem outcome_writeAtomic : (result = .ok () ∧ after.readBytes path = .ok content) ∨
    ((∃ reason, result = .error reason) ∧
      after.get? (tree.place path) = tree.get? (tree.place path)) := by
  cases result with
  | ok u => exact .inl ⟨rfl, readBytes_of_writeAtomic hwrite⟩
  | error e =>
    right
    have hextends := (writeAtomic_changes tree hlevel content).1
    rw [hwrite] at hextends
    refine ⟨⟨e, rfl⟩, hextends.get?_eq ?_ ?_⟩
    · intro habove
      exact habove.2 rfl
    · rintro (⟨-, hok⟩ | hsibling)
      · cases hok
      · exact siblingPlace_ne_place tree path hsibling

/-- A directory was there, or it is one above the file where nothing was. -/
theorem directory_writeAtomic {loc : Location} (hdir : after.isDirectory loc) :
    tree.isDirectory loc ∨
      (tree.get? loc = none ∧ loc <+: tree.place path ∧ loc ≠ tree.place path) := by
  obtain ⟨hextends, hcleared⟩ := writeAtomic_changes tree hlevel content
  rw [hwrite] at hextends hcleared
  rw [isDirectory_iff] at hdir ⊢
  rcases hextends.get? loc with (⟨rfl, hok⟩ | hloc) | hsame | ⟨habove, hnone, -⟩
  · obtain rfl : result = .ok () := hok
    rw [(writeAtomic_ok hwrite).2.2] at hdir
    cases hdir
  · exact .inl ((hcleared loc hloc).get?_of_some hdir)
  · left
    rw [← hsame]
    exact hdir
  · exact .inr ⟨hnone, habove⟩

end

/-- A write of a file without a step upwards is done as a whole or not at all. -/
theorem writeAtomic_atomic (tree : Tree) (hlevel : Level path) (content : ByteArray) :
    Atomic tree path content (writeAtomic tree path content).1 (writeAtomic tree path content).2 := by
  have hkeeps := keeps_writeAtomic (rfl : writeAtomic tree path content = _)
  have hcleared := (writeAtomic_changes tree hlevel content).2
  constructor
  case succeeds =>
    intro hsound
    exact writeAtomic_ok_iff hsound hlevel content
  case outcome => exact outcome_writeAtomic rfl hlevel
  case files =>
    intro loc hplace hsibling old
    apply hkeeps.files
    rintro (hloc | hloc)
    · exact hplace hloc
    · exact hsibling hloc
  case sibling =>
    intro loc hloc old hfile
    exact (hcleared loc hloc).get?_of_some hfile
  case kept => exact hkeeps.directories
  case made =>
    intro loc hdir
    exact directory_writeAtomic rfl hlevel hdir

/-- A working directory with a directory `rows`, beside which the sibling of a file of that name was left. -/
def leftoverTree : Tree where
  nodes := [(["work"], .directory), (["work", "rows"], .directory),
    (["work", ".rows.tmp"], .file (.mk #[7]))]
  workDir := ["work"]

/-- In a directory that is not there a file is written. Over a directory none is, and what was left beside
it is removed. -/
theorem writeAtomic_atomic_leftover :
    (Level "new/a.go" ∧ (writeAtomic leftoverTree "new/a.go" (.mk #[1])).2 = .ok () ∧
        Atomic leftoverTree "new/a.go" (.mk #[1])
          (writeAtomic leftoverTree "new/a.go" (.mk #[1])).1 (.ok ())) ∧
      (Level "rows" ∧ (writeAtomic leftoverTree "rows" (.mk #[2])).2 = .error .isDirectory ∧
        Atomic leftoverTree "rows" (.mk #[2])
          (writeAtomic leftoverTree "rows" (.mk #[2])).1 (.error .isDirectory)) := by
  have hnew : Level "new/a.go" := by
    unfold Level
    decide +kernel
  have hrows : Level "rows" := by
    unfold Level
    decide +kernel
  have hok : (writeAtomic leftoverTree "new/a.go" (.mk #[1])).2 = .ok () := by decide +kernel
  have herror : (writeAtomic leftoverTree "rows" (.mk #[2])).2 = .error .isDirectory := by
    decide +kernel
  refine ⟨⟨hnew, hok, ?_⟩, hrows, herror, ?_⟩
  · rw [← hok]
    exact writeAtomic_atomic leftoverTree hnew (.mk #[1])
  · rw [← herror]
    exact writeAtomic_atomic leftoverTree hrows (.mk #[2])

end RowTypes.Storage
