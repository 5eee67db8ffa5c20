import RowTypes.Proofs.Storage.Growth

/-!
What a write changes: the file, if it is written, and the directories above it, which are made where
nothing was. The sibling is gone in the end, unless nothing could be written to it.

What is proved:
  1. `putInPlace_extends`: what changes once the directories are there.
  2. `writeAtomic_changes`: what the whole write changes.
  3. `writeAtomic_extends`: the same if there was no sibling before.
-/

namespace RowTypes.Storage

open Storage.Tree

variable {before after tree : Tree} {near written : Location → Prop} {loc : Location}
  {path name : String} {p q : Path} {content : ByteArray}

namespace Tree

/-- All is as it was but for what is written, and for directories that are made where nothing was. -/
structure Extends (fresh written : Location → Prop) (before after : Tree) : Prop where
  workDir : after.workDir = before.workDir
  get? : ∀ loc, written loc ∨ after.get? loc = before.get? loc ∨
    (fresh loc ∧ before.get? loc = none ∧ after.get? loc = some .directory)

namespace Extends

variable {fresh fresh' written' : Location → Prop} {last : Tree}

theorem refl (fresh written : Location → Prop) (tree : Tree) : Extends fresh written tree tree :=
  ⟨rfl, fun _ => .inr (.inl rfl)⟩

theorem mono (h : Extends fresh written before after) (hfresh : ∀ loc, fresh loc → fresh' loc)
    (hwritten : ∀ loc, written loc → written' loc) : Extends fresh' written' before after where
  workDir := h.workDir
  get? loc := (h.get? loc).imp (hwritten loc) (Or.imp_right fun hmade => ⟨hfresh loc hmade.1, hmade.2⟩)

theorem trans (h : Extends fresh written before after) (h' : Extends fresh written after last) :
    Extends fresh written before last where
  workDir := h'.workDir.trans h.workDir
  get? loc := by
    rcases h'.get? loc with hwritten | hsame | ⟨hfresh, hnone, hdir⟩
    · exact .inl hwritten
    · rw [hsame]
      exact h.get? loc
    · rcases h.get? loc with hwritten | hsame | ⟨-, -, hdir'⟩
      · exact .inl hwritten
      · exact .inr (.inr ⟨hfresh, hsame ▸ hnone, hdir⟩)
      · rw [hnone] at hdir'
        cases hdir'

theorem grown (h : Extends fresh written before after) (hnear : ∀ loc, near loc → ¬written loc) :
    Grown near before after where
  workDir := h.workDir
  get? loc hloc := by
    rcases h.get? loc with hwritten | hsame | ⟨-, hnone, hdir⟩
    · exact absurd hwritten (hnear loc hloc)
    · exact .inl hsame
    · exact .inr ⟨hnone, hdir⟩

/-- No file comes or goes but those that are written. -/
theorem get?_file_iff (h : Extends fresh written before after) {loc : Location} (hloc : ¬written loc)
    (content : ByteArray) : after.get? loc = some (.file content) ↔
      before.get? loc = some (.file content) := by
  rcases h.get? loc with hwritten | hsame | ⟨-, hnone, hdir⟩
  · exact absurd hwritten hloc
  · rw [hsame]
  · simp [hnone, hdir]

theorem get?_eq (h : Extends fresh written before after) (hfresh : ¬fresh loc)
    (hwritten : ¬written loc) : after.get? loc = before.get? loc := by
  rcases h.get? loc with hloc | hsame | ⟨hloc, -⟩
  · exact absurd hloc hwritten
  · exact hsame
  · exact absurd hloc hfresh

end Extends

theorem exists_of_writeFile (h : tree.writeFile path content = .ok after) :
    after = tree.put (tree.place path) (.file content) ∧ tree.place path ≠ [] ∧
      ¬tree.isDirectory (tree.place path) ∧ after.locate path = .ok (tree.place path) := by
  unfold writeFile at h
  cases hlocate : tree.locateFile path with
  | error e =>
    rw [hlocate] at h
    cases h
  | ok loc =>
    rw [hlocate] at h
    cases h
    obtain ⟨route, dir, name, hroute, hends, hname, hslash, hloc, hfree⟩ := exists_of_locateFile hlocate
    have hplace : loc = tree.place path := hloc.trans (hends.eq_place hroute)
    have hne : loc ≠ [] := by simp [hloc]
    subst hplace
    refine ⟨rfl, hne, hfree, (keeps_put_file content hfree).locate_of_endsIn hroute hends hname hslash ?_⟩
    rw [get?_put _ _ hne]
    rfl

end Tree

/-- A sibling is as it was, or it is gone, and was no directory then. -/
def Cleared (before after : Tree) (loc : Location) : Prop :=
  after.get? loc = before.get? loc ∨ (after.get? loc = none ∧ ¬before.isDirectory loc)

theorem Cleared.get?_of_some {node : Node} (h : Cleared before after loc)
    (hthere : after.get? loc = some node) : before.get? loc = some node := by
  rcases h with hsame | ⟨hgone, -⟩
  · rw [← hsame]
    exact hthere
  · rw [hgone] at hthere
    cases hthere

theorem removeFile_of_writeFile {written : Tree} (h : tree.writeFile path content = .ok written) :
    written.removeFile path = .ok (written.erase (tree.place path)) := by
  obtain ⟨rfl, hne, -, hlocate⟩ := exists_of_writeFile h
  have hfile : (tree.put (tree.place path) (.file content)).isDirectory (tree.place path) = false := by
    simp [isDirectory, get?_put _ _ hne]
  simp [removeFile, hlocate, hfile]

/-- Nothing changes but the file, if it is put in place, and the sibling, which is cleared. -/
theorem putInPlace_extends {sibling : Location}
    (hsibling : tree.place (temporaryPath (Path.ofString path) name) = sibling)
    (hapart : sibling ≠ tree.place path) (content : ByteArray) :
    Extends (fun _ => False)
        (fun loc => (loc = tree.place path ∧ (putInPlace tree path name content).2 = .ok ()) ∨
          loc = sibling)
        tree (putInPlace tree path name content).1 ∧
      Cleared tree (putInPlace tree path name content).1 sibling := by
  unfold putInPlace
  dsimp only
  cases hwrite : tree.writeFile (temporaryPath (Path.ofString path) name) content with
  | error e => exact ⟨.refl _ _ tree, .inl rfl⟩
  | ok written =>
    have hremove := removeFile_of_writeFile hwrite
    obtain ⟨rfl, hne, hdir, hlocate⟩ := exists_of_writeFile hwrite
    rw [hsibling] at hne hdir hlocate hremove
    have hcleared : ∀ other, other ≠ sibling →
        ((tree.put sibling (.file content)).erase sibling).get? other = tree.get? other := by
      intro other hother
      rw [get?_erase_of_ne _ hother, get?_put_of_ne _ _ hother]
    have hgone : ((tree.put sibling (.file content)).erase sibling).get? sibling = none :=
      get?_erase _ hne
    rw [hsibling]
    dsimp only
    cases hrename : (tree.put sibling (.file content)).renameFile
        (temporaryPath (Path.ofString path) name) path with
    | ok moved =>
      obtain ⟨read, -, -, -, -, -, -, -, -, -, rfl⟩ := exists_of_renameFile hrename
      have hplace : _ = tree.place path :=
        place_congr (workDir_put tree sibling (.file content))
      rw [← locate_eq_place hlocate, hplace]
      refine ⟨⟨rfl, fun loc => ?_⟩, .inr ⟨(get?_put_of_ne _ _ hapart).trans hgone, hdir⟩⟩
      by_cases hloc : loc = tree.place path
      · exact .inl (.inl ⟨hloc, rfl⟩)
      · by_cases hloc' : loc = sibling
        · exact .inl (.inr hloc')
        · exact .inr (.inl ((get?_put_of_ne _ _ hloc).trans (hcleared loc hloc')))
    | error e =>
      dsimp only
      rw [hremove]
      refine ⟨⟨rfl, fun loc => ?_⟩, .inr ⟨hgone, hdir⟩⟩
      by_cases hloc : loc = sibling
      · exact .inl (.inr hloc)
      · exact .inr (.inl (hcleared loc hloc))

theorem makeParents_of_nameless (hp : p.Spelled) (hlevel : Level p.toString) (hname : p.name? = none) :
    makeParents tree p = (tree, .ok ()) := by
  unfold makeParents
  cases hq : p.parent? with
  | none => rfl
  | some q =>
    obtain ⟨-, -, rfl⟩ | ⟨front, last, hparts, -⟩ := parent?_cases hq
    · rfl
    · have hmem : last ∈ p.steps := by
        rw [Path.steps, ← filter_matters_trimParts, hparts]
        exact List.mem_filter.mpr ⟨by simp, matters_of_trimParts hparts⟩
      rw [hlevel.steps_eq_nil hp hname] at hmem
      cases hmem

theorem siblingPlace_ne_place (tree : Tree) (path : String) :
    siblingPlace? tree path ≠ some (tree.place path) := by
  intro hsibling
  rw [siblingPlace?, Option.map_eq_some_iff] at hsibling
  obtain ⟨name, hname, hbeside⟩ := hsibling
  obtain ⟨q, hq, -⟩ := exists_parent hname
  have hp := spelled_ofString path
  have hplace : tree.place (Path.ofString path).toString = _ := place_eq_concat hp hq hname
  rw [toString_ofString] at hplace
  rw [place_temporaryPath hp hq hname, hplace, List.append_cancel_left_eq] at hbeside
  exact siblingName_ne name (List.singleton_inj.mp hbeside)

theorem Paves.above {made : Tree} {q : Path} (h : Paves q.toString tree made)
    (hworkDir : made.workDir = tree.workDir) (hlevel : Level path)
    (hq : (Path.ofString path).parent? = some q) (hname : (Path.ofString path).name? = some name)
    (written : Location → Prop) :
    Extends (fun loc => loc <+: tree.place path ∧ loc ≠ tree.place path) written tree made := by
  have hp := spelled_ofString path
  have hplace : tree.place _ = _ := place_eq_concat hp hq hname
  rw [toString_ofString] at hplace
  refine ⟨hworkDir, fun loc => .inr ((h loc).imp_right fun hmade => ⟨?_, hmade.2⟩)⟩
  obtain ⟨front, hfront, hloc⟩ := hmade.1
  have hdir := foldl_next_prefix ((Level.ofString hlevel).parent hp hq) hfront
    (originOf tree q.toString)
  rw [hloc, ← place_eq_foldl] at hdir
  rw [hplace]
  refine ⟨hdir.trans (List.prefix_append _ _), fun heq => ?_⟩
  have hlength := hdir.length_le
  rw [heq, List.length_append, List.length_singleton] at hlength
  omega

/-- Nothing changes but the file, if it is written, the directories above it, and the sibling, which is
cleared. -/
theorem writeAtomic_changes (tree : Tree) (hlevel : Level path) (content : ByteArray) :
    Extends (fun loc => loc <+: tree.place path ∧ loc ≠ tree.place path)
        (fun loc => (loc = tree.place path ∧ (writeAtomic tree path content).2 = .ok ()) ∨
          siblingPlace? tree path = some loc)
        tree (writeAtomic tree path content).1 ∧
      ∀ loc ∈ siblingPlace? tree path, Cleared tree (writeAtomic tree path content).1 loc := by
  have hp := spelled_ofString path
  rw [writeAtomic_eq]
  cases hname : (Path.ofString path).name? with
  | none =>
    rw [makeParents_of_nameless hp (Level.ofString hlevel) hname]
    exact ⟨.refl _ _ tree, fun _ _ => .inl rfl⟩
  | some name =>
    obtain ⟨q, hq, -⟩ := exists_parent hname
    have hworkDir := (keeps_makeParents tree (Path.ofString path)).workDir
    have hpaves := paves_makeParents hp hq tree
    have habove := hpaves.above hworkDir hlevel hq hname
    obtain ⟨-, hkept⟩ := hpaves.get?_place hname hq hlevel
    have hsibling : siblingPlace? tree path =
        some (tree.place (temporaryPath (Path.ofString path) name)) := by
      rw [siblingPlace?, hname]
      rfl
    have hapart : tree.place (temporaryPath (Path.ofString path) name) ≠ tree.place path :=
      fun heq => siblingPlace_ne_place tree path (heq ▸ hsibling)
    simp only [hsibling, Option.mem_some, forall_eq', Option.some.injEq]
    cases hmade : makeParents tree (Path.ofString path) with
    | mk made ended =>
      rw [hmade] at hworkDir habove hkept
      cases ended with
      | error e => exact ⟨habove _, .inl hkept⟩
      | ok u =>
        have hplaceMade : made.place path = tree.place path := place_congr hworkDir
        obtain ⟨hwritten, hcleared⟩ :=
          putInPlace_extends (place_congr hworkDir) (hplaceMade ▸ hapart) content
        rw [hplaceMade] at hwritten
        simp only [Cleared, isDirectory, hkept] at hcleared
        refine ⟨?_, hcleared⟩
        exact (habove _).trans (hwritten.mono (fun _ => False.elim) fun loc hloc => hloc.imp_right Eq.symm)

/-- If there was no sibling before, there is none afterwards, and nothing changes but the file and the
directories above it. -/
theorem writeAtomic_extends (hlevel : Level path)
    (hsibling : ∀ loc ∈ siblingPlace? tree path, ∀ old, tree.get? loc ≠ some (.file old))
    (content : ByteArray) :
    Extends (fun loc => loc <+: tree.place path ∧ loc ≠ tree.place path)
      (fun loc => loc = tree.place path ∧ (writeAtomic tree path content).2 = .ok ())
      tree (writeAtomic tree path content).1 := by
  obtain ⟨hextends, hcleared⟩ := writeAtomic_changes tree hlevel content
  refine ⟨hextends.workDir, fun loc => ?_⟩
  rcases hextends.get? loc with (hfile | hbeside) | hkept
  · exact .inl hfile
  · right
    left
    rcases hcleared loc hbeside with hsame | ⟨hgone, hdir⟩
    · exact hsame
    · cases hentry : tree.get? loc with
      | none => exact hgone
      | some node =>
        cases node with
        | file old => exact absurd hentry (hsibling loc hbeside old)
        | directory => exact absurd (isDirectory_iff.mpr hentry) hdir
  · exact .inr hkept

end RowTypes.Storage
