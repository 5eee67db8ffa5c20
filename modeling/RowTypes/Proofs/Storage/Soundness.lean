import Mathlib.Data.List.Infix
import RowTypes.Proofs.Storage.Writing

/-!
Sound trees: every entry stands in a directory. What holds of the trees that a process finds is kept by
everything that it does to them. In a sound tree nothing stands below what is not there.

What is proved:
  1. `Sound.isDirectory_of_prefix`, `Sound.nothing_below`: what is above and below an entry.
  2. `Sound.put`, `Sound.erase`: changes that keep a tree sound.
  3. `Sound.writeAtomic`: a file that is written keeps the tree sound, and so does one that is not.
-/

namespace RowTypes.Storage

namespace Tree

variable {tree after : Tree} {loc other : Location} {node : Node} {path : String}

/-- Every entry stands in a directory, and the working directory is one. -/
structure Sound (tree : Tree) : Prop where
  workDir : tree.isDirectory tree.workDir
  above : ∀ loc, (tree.get? loc).isSome → tree.isDirectory loc.dropLast

theorem isDirectory_nil (tree : Tree) : tree.isDirectory [] :=
  isDirectory_iff.mpr rfl

theorem sound_fresh : fresh.Sound where
  workDir := by decide
  above loc hthere := by
    by_cases hroot : loc = []
    · subst hroot
      exact isDirectory_nil _
    · by_cases hloc : loc = ["work"]
      · subst hloc
        exact isDirectory_nil _
      · simp [get?, fresh, hroot, List.lookup_cons, beq_false_of_ne hloc] at hthere

theorem isSome_of_isDirectory (h : tree.isDirectory loc) : (tree.get? loc).isSome := by
  rw [isDirectory_iff.mp h]
  rfl

namespace Sound

/-- All that is above an entry is a directory. -/
theorem isDirectory_of_prefix (h : tree.Sound) (hthere : (tree.get? loc).isSome)
    (hfront : other <+: loc) (hne : other ≠ loc) : tree.isDirectory other := by
  induction loc using List.reverseRecOn with
  | nil => exact absurd (List.prefix_nil.mp hfront) hne
  | append_singleton dir name ih =>
    have hdir : tree.isDirectory dir := by simpa using h.above _ hthere
    rcases List.prefix_concat_iff.mp hfront with heq | hfront
    · exact absurd heq hne
    · by_cases heq : other = dir
      · rwa [heq]
      · exact ih (isSome_of_isDirectory hdir) hfront heq

theorem nothing_below (h : tree.Sound) (hnone : tree.get? loc = none) (rest : List String) :
    tree.get? (loc ++ rest) = none := by
  by_contra hthere
  have hthere := Option.isSome_iff_ne_none.mpr hthere
  by_cases hrest : rest = []
  · subst hrest
    simp [hnone] at hthere
  · have hdir := h.isDirectory_of_prefix hthere (List.prefix_append loc rest) (by simpa using hrest)
    simp [isDirectory, hnone] at hdir

/-! ## Changes -/

/-- An entry that is put into a directory, in place of no other directory. -/
theorem put (h : tree.Sound) (hne : loc ≠ []) (hdir : tree.isDirectory loc.dropLast)
    (hkind : tree.isDirectory loc → node = .directory) : (tree.put loc node).Sound := by
  have hkept : ∀ other, tree.isDirectory other → (tree.put loc node).isDirectory other := by
    intro other hother
    rw [isDirectory_iff] at hother ⊢
    by_cases heq : other = loc
    · subst heq
      rw [get?_put _ _ hne, hkind (isDirectory_iff.mpr hother)]
    · rwa [get?_put_of_ne _ _ heq]
  refine ⟨hkept _ h.workDir, fun other hthere => hkept _ ?_⟩
  by_cases heq : other = loc
  · rwa [heq]
  · rw [get?_put_of_ne _ _ heq] at hthere
    exact h.above _ hthere

/-- A file that is taken away. -/
theorem erase (h : tree.Sound) (hfile : ¬tree.isDirectory loc) : (tree.erase loc).Sound := by
  have hkept : ∀ other, tree.isDirectory other → (tree.erase loc).isDirectory other := by
    intro other hother
    have hne : other ≠ loc := fun heq => hfile (heq ▸ hother)
    rw [isDirectory_iff] at hother ⊢
    rwa [get?_erase_of_ne _ hne]
  refine ⟨hkept _ h.workDir, fun other hthere => ?_⟩
  have hne : loc ≠ [] := by
    rintro rfl
    exact hfile (isDirectory_nil tree)
  by_cases heq : other = loc
  · rw [heq, get?_erase _ hne] at hthere
    cases hthere
  · rw [get?_erase_of_ne _ heq] at hthere
    exact hkept _ (h.above _ hthere)

theorem makeDirectory (h : tree.Sound) (hmade : tree.makeDirectory path = .ok after) : after.Sound := by
  unfold Tree.makeDirectory at hmade
  split at hmade
  · cases hmade
  · cases hmade
  · next dir name hparent =>
    obtain ⟨route, -, hlast⟩ : ∃ route, tree.route path = .ok route ∧
        tree.parentOf route = .ok (dir, .name name) := by
      cases hroute : tree.route path with
      | error e => simp [hroute, Except.bind] at hparent
      | ok route => exact ⟨route, rfl, by simpa [hroute, Except.bind] using hparent⟩
    have hends := endsIn_of_parentOf hlast
    split at hmade
    · cases hmade
    · split at hmade
      · cases hmade
      · next hfree =>
        cases hmade
        exact h.put (by simp) (by simpa using hends.directory) fun _ => rfl

theorem writeFile {content : ByteArray} (h : tree.Sound)
    (hwritten : tree.writeFile path content = .ok after) : after.Sound := by
  unfold Tree.writeFile at hwritten
  cases hlocate : tree.locateFile path with
  | error e =>
    rw [hlocate] at hwritten
    cases hwritten
  | ok loc =>
    rw [hlocate] at hwritten
    cases hwritten
    obtain ⟨route, dir, name, -, hends, -, -, rfl, hfree⟩ := exists_of_locateFile hlocate
    exact h.put (by simp) (by simpa using hends.directory) fun hdir => absurd hdir hfree

theorem removeFile (h : tree.Sound) (hremoved : tree.removeFile path = .ok after) : after.Sound := by
  unfold Tree.removeFile at hremoved
  split at hremoved
  · cases hremoved
  · split at hremoved
    · cases hremoved
    · next hfile =>
      cases hremoved
      exact h.erase hfile

theorem renameFile {target : String} (h : tree.Sound)
    (hmoved : tree.renameFile path target = .ok after) : after.Sound := by
  obtain ⟨content, route, dir, name, hread, hroute, hends, -, -, hfree, rfl⟩ :=
    exists_of_renameFile hmoved
  have hsource : ¬tree.isDirectory (tree.place path) := by
    simp [isDirectory, (readBytes_ok hread).2]
  rw [← hends.eq_place hroute] at hfree ⊢
  have hdir : (tree.erase (tree.place path)).isDirectory dir :=
    (keeps_erase hsource).directories dir hends.directory
  exact (h.erase hsource).put (by simp) (by simpa using hdir)
    fun hother => absurd (isDirectory_of_erase hother) hfree

end Sound

end Tree

/-! ## Writing by way of a sibling -/

namespace Tree.Sound

variable {tree : Tree}

theorem attempt (h : tree.Sound) (path : String) : (attempt tree path).1.Sound := by
  unfold Storage.attempt
  split
  · next made hmade => exact h.makeDirectory hmade
  · exact h

theorem makeDirectories (h : tree.Sound) (fuel : Nat) (p : Path) :
    (makeDirectories tree fuel p).1.Sound :=
  kept_makeDirectories (fun _ path hsound => hsound.attempt path) h fuel p

theorem makeParents (h : tree.Sound) (p : Path) : (makeParents tree p).1.Sound := by
  unfold Storage.makeParents
  split
  · exact h.makeDirectories _ _
  · exact h

theorem putInPlace (h : tree.Sound) (path name : String) (content : ByteArray) :
    (putInPlace tree path name content).1.Sound := by
  unfold Storage.putInPlace
  dsimp only
  split
  · exact h
  · next written hwritten =>
    have hsound := h.writeFile hwritten
    split
    · next moved hmoved => exact hsound.renameFile hmoved
    · split
      · next cleared hcleared => exact hsound.removeFile hcleared
      · exact hsound

theorem writeAtomic (h : tree.Sound) (path : String) (content : ByteArray) :
    (writeAtomic tree path content).1.Sound := by
  have hparents := h.makeParents (Path.ofString path)
  rw [writeAtomic_eq]
  split
  · next made e hmade => exact hmade ▸ hparents
  · next made hmade =>
    rw [hmade] at hparents
    split
    · exact hparents
    · exact hparents.putInPlace _ _ _

end Tree.Sound

end RowTypes.Storage
