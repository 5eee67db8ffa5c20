import RowTypes.Proofs.Storage.Agreement
import RowTypes.Run.Basic

/-!
Runs over trees that agree. A run reads and writes what lies on the ways of its files and beside them,
so on two trees that agree there it comes to the same, if the program that formats them looks at nothing
else (`FormatsWithin`). Programs leave any files, but the working directory of a run is not theirs to
change (`workDir_runGroups`).

What is proved:
  1. `runGroup_sameEnd`, `runGroups_sameEnd`: the groups of a run, one and all.
-/

namespace RowTypes

open Storage Storage.Tree

/-! ## Programs -/

/-- A program looks at nothing but what is near: on trees that agree there, it fails to start for one
reason, or it ends alike and leaves files that agree. -/
def Command.Launcher.LooksWithin (launch : Launcher) (near : Location → Prop) (program : String)
    (arguments : List String) : Prop :=
  ∀ left right, Agree near left right →
    Alike (fun outcome outcome' => outcome.status = outcome'.status ∧ outcome.errors = outcome'.errors ∧
        Agree near { left with nodes := outcome.nodes } { right with nodes := outcome'.nodes })
      (launch left program arguments) (launch right program arguments)

theorem Command.Launcher.LooksWithin.start {launch : Launcher} {near : Location → Prop}
    {program : String} {arguments : List String} (h : launch.LooksWithin near program arguments) :
    LooksWithin (start launch) near program arguments := by
  intro left right hagree
  by_cases hzero : (program :: arguments).any fun word => word.toList.contains '\x00'
  · rw [Command.start, Command.start, if_pos hzero, if_pos hzero]
    exact .error _
  · rw [Command.start, Command.start, if_neg hzero, if_neg hzero]
    exact h left right hagree

theorem Formatter.run_sameEnd {launch : Command.Launcher} {near : Location → Prop} {left right : Tree}
    {command : List String} {path : String} (h : Agree near left right)
    (hlooks : ∀ program arguments, command = program :: arguments →
      launch.LooksWithin near program (arguments ++ [path])) :
    SameEnd near (run left command path launch) (run right command path launch) := by
  cases command with
  | nil => exact ⟨h, rfl⟩
  | cons program arguments =>
    have hstart := (hlooks program arguments rfl).start left right h
    unfold run
    dsimp only
    generalize Command.start launch left program _ = ended, Command.start launch right program _ = ended'
      at hstart
    cases hstart with
    | error reason => exact ⟨h, rfl⟩
    | ok houtcome =>
      obtain ⟨hstatus, herrors, htree⟩ := houtcome
      exact ⟨htree, by simp only [hstatus, herrors]⟩

/-! ## The working directory -/

theorem Formatter.workDir_run (tree : Tree) (command : List String) (path : String)
    (launch : Command.Launcher) : (run tree command path launch).1.workDir = tree.workDir := by
  unfold run
  split
  · rfl
  · split <;> rfl

namespace Catalog

variable {cat : Catalog} {launch : Command.Launcher} {near : Location → Prop} {left right : Tree}
  {group : FileGroup} {groups : List FileGroup}

theorem workDir_format (cat : Catalog) (tree : Tree) (path : String) (launch : Command.Launcher) :
    (cat.format tree path launch).1.workDir = tree.workDir := by
  unfold format
  split
  · rfl
  · next command _ =>
    have hrun := Formatter.workDir_run tree command path launch
    split <;> simp_all

theorem workDir_runGroup (cat : Catalog) (tree : Tree) (group : FileGroup) (launch : Command.Launcher) :
    (cat.runGroup tree group launch).1.workDir = tree.workDir := by
  unfold runGroup
  split
  · rfl
  · split
    · rfl
    · next merge _ =>
      split
      · split
        · next written reason hwrite => exact (writeAtomic_error hwrite).workDir
        · next written hwrite =>
          exact (cat.workDir_format written group.path launch).trans (writeAtomic_ok hwrite).1.workDir
      · rfl

theorem workDir_runGroups (cat : Catalog) (tree : Tree) (groups : List FileGroup)
    (launch : Command.Launcher) :
    (cat.runGroups tree groups launch).1.workDir = tree.workDir := by
  induction groups generalizing tree with
  | nil => rfl
  | cons group groups ih => exact (ih _).trans (cat.workDir_runGroup tree group launch)

/-! ## What a run looks at -/

/-- All that is looked at to write a file is near: its way and its sibling. -/
structure WritesWithin (near : Location → Prop) (tree : Tree) (path : String) : Prop where
  covers : Covers near tree path
  sibling : ∀ loc ∈ siblingPlace? tree path, near loc

instance {tree : Tree} {path : String} [DecidablePred near] :
    Decidable (WritesWithin near tree path) :=
  decidable_of_iff (Covers near tree path ∧ ∀ loc ∈ siblingPlace? tree path, near loc)
    ⟨fun h => ⟨h.1, h.2⟩, fun h => ⟨h.covers, h.sibling⟩⟩

theorem WritesWithin.congr {tree after : Tree} {path : String} (h : WritesWithin near tree path)
    (hworkDir : after.workDir = tree.workDir) : WritesWithin near after path where
  covers := (covers_congr hworkDir).mpr h.covers
  sibling loc hloc := by
    refine h.sibling loc ?_
    simpa only [siblingPlace?, place_congr hworkDir] using hloc

/-- The program that formats a file looks at nothing but what is near. -/
def FormatsWithin (cat : Catalog) (near : Location → Prop) (launch : Command.Launcher)
    (path : String) : Prop :=
  ∀ program arguments, cat.config.formatter = some (program :: arguments) →
    launch.LooksWithin near program (arguments ++ [path])

theorem format_sameEnd {path : String} (h : Agree near left right)
    (hformats : cat.FormatsWithin near launch path) :
    SameEnd near (cat.format left path launch) (cat.format right path launch) := by
  unfold format
  cases hformatter : cat.config.formatter with
  | none => exact ⟨h, rfl⟩
  | some command =>
    have hrun : SameEnd near (Formatter.run left command path launch)
        (Formatter.run right command path launch) :=
      Formatter.run_sameEnd h fun program arguments hcommand =>
        hformats program arguments (hcommand ▸ hformatter)
    dsimp only
    generalize Formatter.run left command path launch = ended,
      Formatter.run right command path launch = ended' at hrun
    obtain ⟨tree, result⟩ := ended
    obtain ⟨tree', result'⟩ := ended'
    obtain ⟨htree, hresult⟩ := hrun
    obtain rfl : result = result' := hresult
    cases result <;> exact ⟨htree, rfl⟩

/-- The group of a file comes to the same on trees that agree. -/
theorem runGroup_sameEnd (h : Agree near left right) (hwrites : WritesWithin near left group.path)
    (hformats : cat.FormatsWithin near launch group.path) :
    SameEnd near (cat.runGroup left group launch) (cat.runGroup right group launch) := by
  unfold runGroup
  rw [h.readExisting hwrites.covers]
  split
  · exact ⟨h, rfl⟩
  · split
    · exact ⟨h, rfl⟩
    · next merge _ =>
      split
      · obtain ⟨hwritten, hresult⟩ := h.writeAtomic hwrites.covers hwrites.sibling merge.text.toUTF8
        generalize writeAtomic left group.path merge.text.toUTF8 = written,
          writeAtomic right group.path merge.text.toUTF8 = written' at hwritten hresult
        obtain ⟨tree, result⟩ := written
        obtain ⟨tree', result'⟩ := written'
        simp only at hwritten hresult
        subst hresult
        cases result with
        | error reason => exact ⟨hwritten, rfl⟩
        | ok u =>
          obtain ⟨hformatted, hfailure⟩ := format_sameEnd hwritten hformats
          exact ⟨hformatted, by simp only [hfailure]⟩
      · exact ⟨h, rfl⟩

/-- All groups of a run come to the same on trees that agree. -/
theorem runGroups_sameEnd (h : Agree near left right)
    (hwrites : ∀ group ∈ groups, WritesWithin near left group.path)
    (hformats : ∀ group ∈ groups, cat.FormatsWithin near launch group.path) :
    SameEnd near (cat.runGroups left groups launch) (cat.runGroups right groups launch) := by
  induction groups generalizing left right with
  | nil => exact ⟨h, rfl⟩
  | cons group groups ih =>
    obtain ⟨hgroup, hgroups⟩ := List.forall_mem_cons.mp hwrites
    obtain ⟨hformat, hformats⟩ := List.forall_mem_cons.mp hformats
    obtain ⟨hafter, hrun⟩ := runGroup_sameEnd h hgroup hformat
    have hworkDir := cat.workDir_runGroup left group launch
    obtain ⟨hlast, hruns⟩ := ih hafter (fun other hother => (hgroups other hother).congr hworkDir)
      hformats
    exact ⟨hlast, congrArg₂ List.cons hrun hruns⟩

end Catalog

end RowTypes
