import RowTypes.Proofs.Run.KeptBlocks
import RowTypes.Proofs.Storage.Writing
import RowTypes.Run.Basic

/-!
The files of a run. A group that succeeds leaves the text of its merge in its file, one that fails
leaves its file alone, and no group changes any other file but the sibling of its own.

What is proved:
  1. `runGroup_cases`: what one group reads, writes and leaves as it was.
  2. `runGroups_keeps`: what a run leaves as it was.
  3. `runGroups_split`: what a group of a run finds, and what is done after it.
-/

namespace RowTypes.Catalog

open Storage Storage.Tree

variable {cat : Catalog} {launch : Command.Launcher} {tree after : Tree} {group : FileGroup}
  {groups : List FileGroup} {run : GroupRun} {runs : List GroupRun} {merge : GroupMerge} {loc : Location}

/-! ## One group -/

/-- A run of a group may change what is at a place: the file of the group if it succeeds, and the
sibling in any case. -/
def Touches (tree : Tree) (run : GroupRun) (loc : Location) : Prop :=
  (tree.place run.group.path = loc ∧ ∃ merge, run.result = .ok merge) ∨
    siblingPlace? tree run.group.path = some loc

/-- A group that succeeds merges into the text of its file, and its file reads as the merged text. -/
structure Succeeds (cat : Catalog) (tree : Tree) (group : FileGroup) (merge : GroupMerge)
    (after : Tree) : Prop where
  read : readExisting tree group.path = .ok merge.original
  merged : cat.mergeGroup merge.original group.tables = .ok merge
  written : merge.text ≠ "" → after.readText group.path = .ok merge.text

/-- What comes of a group: it succeeds, or it touches nothing but the sibling of its file. -/
theorem runGroup_cases (hformatter : cat.config.formatter = none)
    (h : cat.runGroup tree group launch = (after, run)) :
    run.group = group ∧ Keeps (Touches tree run) tree after ∧
      ∀ merge, run.result = .ok merge → cat.Succeeds tree group merge after := by
  -- A group stops at four places: it cannot be read, merged or written, or it does not change its file.
  unfold runGroup at h
  split at h
  · cases h
    exact ⟨rfl, .refl _ _, nofun⟩
  · next original hread =>
    split at h
    · cases h
      exact ⟨rfl, .refl _ _, nofun⟩
    · next merged hmerge =>
      obtain rfl : merged.original = original := by
        obtain ⟨merges, -, rfl⟩ := exists_of_mergeGroup hmerge
        rfl
      split at h
      · split at h
        · next written reason hwrite =>
          cases h
          exact ⟨rfl, (writeAtomic_error hwrite).mono fun _ => .inr, nofun⟩
        · next written hwrite =>
          obtain ⟨hkeeps, hlocate, hfile⟩ := writeAtomic_ok hwrite
          simp only [format, hformatter] at h
          cases h
          refine ⟨rfl, hkeeps.mono ?_, ?_⟩
          · rintro loc (rfl | hsibling)
            · exact .inl ⟨rfl, merged, rfl⟩
            · exact .inr hsibling
          · intro merge hresult
            cases hresult
            refine ⟨hread, hmerge, fun _ => readText_iff.mpr ?_⟩
            rw [hkeeps.place_eq]
            exact ⟨hlocate, hfile⟩
      · next hsame =>
        cases h
        refine ⟨rfl, .refl _ _, ?_⟩
        intro merge hresult
        cases hresult
        have htext : merged.text = merged.original := by simpa [GroupMerge.changes] using hsame
        rw [← htext] at hread
        exact ⟨by rw [← htext]; exact hread, hmerge, readText_of_readExisting hread⟩

/-! ## All groups -/

theorem runGroups_cons (cat : Catalog) (tree : Tree) (group : FileGroup) (rest : List FileGroup)
    (launch : Command.Launcher) :
    cat.runGroups tree (group :: rest) launch =
      ((cat.runGroups (cat.runGroup tree group launch).1 rest launch).1,
        (cat.runGroup tree group launch).2 ::
          (cat.runGroups (cat.runGroup tree group launch).1 rest launch).2) := rfl

theorem runGroups_append (cat : Catalog) (tree : Tree) (groups more : List FileGroup)
    (launch : Command.Launcher) :
    cat.runGroups tree (groups ++ more) launch =
      ((cat.runGroups (cat.runGroups tree groups launch).1 more launch).1,
        (cat.runGroups tree groups launch).2 ++
          (cat.runGroups (cat.runGroups tree groups launch).1 more launch).2) := by
  induction groups generalizing tree with
  | nil => rfl
  | cons group rest ih => simp only [List.cons_append, runGroups_cons, ih]

/-- A group of a run stands between the groups before it and those after it. -/
theorem runGroups_split {before rest : List GroupRun}
    (h : cat.runGroups tree groups launch = (after, before ++ run :: rest)) :
    ∃ found left first group last, groups = first ++ group :: last ∧
      cat.runGroups tree first launch = (found, before) ∧ cat.runGroup found group launch = (left, run) ∧
      cat.runGroups left last launch = (after, rest) := by
  induction before generalizing tree groups with
  | nil =>
    cases groups with
    | nil => cases h
    | cons group groups =>
      rw [runGroups_cons] at h
      obtain ⟨rfl, hruns⟩ := Prod.mk.inj h
      obtain ⟨rfl, rfl⟩ := List.cons.inj hruns
      exact ⟨tree, _, [], group, groups, rfl, rfl, rfl, rfl⟩
  | cons head before ih =>
    cases groups with
    | nil => cases h
    | cons group groups =>
      rw [runGroups_cons] at h
      obtain ⟨rfl, hruns⟩ := Prod.mk.inj h
      obtain ⟨rfl, hrest⟩ := List.cons.inj hruns
      obtain ⟨found, left, first, middle, last, rfl, hfirst, hmiddle, hlast⟩ :=
        ih (Prod.ext rfl hrest)
      refine ⟨found, left, group :: first, middle, last, rfl, ?_, hmiddle, hlast⟩
      rw [runGroups_cons, hfirst]

theorem Touches.congr {touched : Location → Prop} (h : Keeps touched tree after) :
    Touches after run loc ↔ Touches tree run loc := by
  simp only [Touches, siblingPlace?, h.place_eq]

/-- A run touches nothing but what its groups touch. -/
theorem runGroups_keeps (hformatter : cat.config.formatter = none)
    (h : cat.runGroups tree groups launch = (after, runs)) :
    Keeps (fun loc => ∃ run ∈ runs, Touches tree run loc) tree after := by
  induction groups generalizing tree runs with
  | nil =>
    cases h
    exact .refl _ _
  | cons group groups ih =>
    rw [runGroups_cons] at h
    cases h
    obtain ⟨-, hkeeps, -⟩ := runGroup_cases hformatter (rfl : cat.runGroup tree group launch = _)
    apply (hkeeps.mono fun loc hloc => ⟨_, List.mem_cons_self, hloc⟩).trans
    apply (ih rfl).mono
    rintro loc ⟨run, hrun, hloc⟩
    exact ⟨run, List.mem_cons_of_mem _ hrun, (Touches.congr hkeeps).mp hloc⟩

theorem run_single {select : Table → Bool} {original : String}
    (hformatter : cat.config.formatter = none) (hcheck : cat.check = .ok ())
    (hgroups : cat.fileGroups (cat.tables.filter select) = [group])
    (hread : readExisting tree group.path = .ok original)
    (hmerge : cat.mergeGroup original group.tables = .ok merge) (hchanges : merge.text ≠ original)
    (hwrite : writeAtomic tree group.path merge.text.toUTF8 = (after, .ok ())) :
    cat.run tree select launch =
      .ok (after, [{ group, original := some original, result := .ok merge }]) := by
  have hchanged : merge.changes = true := by
    obtain ⟨merges, -, rfl⟩ := exists_of_mergeGroup hmerge
    simpa [GroupMerge.changes] using hchanges
  have hgroup : cat.runGroup tree group launch =
      (after, { group, original := some original, result := .ok merge }) := by
    simp only [runGroup, hread, hmerge, hchanged, if_true, hwrite, format, hformatter]
  rw [Catalog.run, hcheck, hgroups]
  simp only [runGroups, hgroup]

end RowTypes.Catalog
