import RowTypes.Proofs.Storage.Extension

/-!
When a file can be written. Its directories can be made, its path ends with its name, that of its sibling is
not too long, and neither of the two is a directory. Nothing else can stop a write, and all of this can.

What is proved:
  1. `short_of_makesPath`: directories that can be made have names that are short enough.
  2. `putInPlace_ok_iff`: what it takes once the directories are there.
  3. `writeAtomic_ok_iff`: what it takes for the whole write.
-/

namespace RowTypes.Storage

open Storage.Tree

variable {tree made : Tree} {path name : String} {q : Path} {route : Route} {content : ByteArray}

namespace Tree

theorem endsWithSlash_of_route (h : tree.route path = .ok route) :
    route.endsWithSlash = decide (path.toList.getLast? = some '/') := by
  unfold Tree.route at h
  split at h
  · cases h
  · split at h
    · cases h
    · split at h
      · cases h
      · cases h
        rfl

end Tree

/-- What the text of a path has to be for a file to be written under it. -/
structure Fit (tree : Tree) (path name : String) : Prop where
  target : ∃ route, tree.route path = .ok route ∧ route.endsWithSlash = false ∧
    route.steps.getLast? = some name
  sibling : ∃ route, tree.route (temporaryPath (Path.ofString path) name) = .ok route
  short : ¬TooLong (siblingName name)

theorem Fit.congr {touched : Location → Prop} (h : Keeps touched tree made) :
    Fit made path name ↔ Fit tree path name := by
  have htarget := h.route_eq path
  have hsibling := h.route_eq (temporaryPath (Path.ofString path) name)
  constructor
  · intro hfit
    obtain ⟨htarget', hsibling', hshort⟩ := hfit
    rw [htarget] at htarget'
    rw [hsibling] at hsibling'
    exact ⟨htarget', hsibling', hshort⟩
  · intro hfit
    obtain ⟨htarget', hsibling', hshort⟩ := hfit
    rw [← htarget] at htarget'
    rw [← hsibling] at hsibling'
    exact ⟨htarget', hsibling', hshort⟩

theorem getLast?_join {base rest : String} (h : rest.toList ≠ []) :
    (join base rest).toList.getLast? = rest.toList.getLast? := by
  unfold join
  split
  · rfl
  · split
    · rw [String.toList_append, List.getLast?_append_of_ne_nil _ h]
    · rw [String.toList_append, List.getLast?_append_of_ne_nil _ h]

theorem not_endsWithSlash_temporaryPath
    (h : tree.route (temporaryPath (Path.ofString path) name) = .ok route) :
    route.endsWithSlash = false := by
  have hne : (siblingName name).toList ≠ [] := by simp [toList_siblingName]
  have hlast : (siblingName name).toList.getLast? = some 'p' := by
    rw [toList_siblingName, ← List.cons_append, List.getLast?_append_of_ne_nil _ (by simp)]
    rfl
  rw [endsWithSlash_of_route h, temporaryPath, ← siblingName, getLast?_join hne, hlast]
  rfl

section Placing
variable (hq : (Path.ofString path).parent? = some q) (hname : (Path.ofString path).name? = some name)
include hq hname

/-- The way of a path that is fit is that to its directory and a step to its name. -/
theorem Fit.exists_steps (h : Fit tree path name) : ∃ route dots, tree.route path = .ok route ∧
    route.endsWithSlash = false ∧ route.start = originOf tree q.toString ∧
    route.steps = (q.walked ++ dots) ++ [name] ∧ ∀ step ∈ dots, step = "." := by
  obtain ⟨route, hroute, hslash, hlast⟩ := h.target
  have hp := spelled_ofString path
  obtain ⟨r, -, hsteps, -, hdot, -⟩ := exists_parent hname
  have hne : (Path.ofString path).steps ≠ [] := by simp [hsteps]
  obtain ⟨dots, last, rest, hwalked, hdots, -, hrest, -⟩ := walked_eq_of_parent hq hne
  obtain ⟨hstart, hall⟩ := route_ok hroute
  rw [← toString_ofString path] at hstart hall
  rw [stepsOf_toString hp, hwalked] at hall
  refine ⟨route, dots, hroute, hslash, hstart.trans (originOf_parent hp hq tree).symm, ?_, hdots⟩
  rw [hall] at hlast ⊢
  rcases List.eq_nil_or_concat rest with rfl | ⟨front, step, rfl⟩
  · rw [List.append_nil, List.getLast?_concat] at hlast
    rw [List.append_nil, Option.some.inj hlast]
  · rw [List.concat_eq_append, ← List.append_assoc, List.getLast?_concat] at hlast
    exact absurd (hrest step (by simp)) (Option.some.inj hlast ▸ hdot)

section
variable (hpaved : made.Paved q.toString) (hshort : ∀ step ∈ q.walked, ¬TooLong step)
include hpaved hshort

theorem writeFile_sibling (hfit : Fit made path name)
    (hfree : ¬made.isDirectory (made.place (temporaryPath (Path.ofString path) name)))
    (content : ByteArray) :
    made.writeFile (temporaryPath (Path.ofString path) name) content =
      .ok (made.put (made.place (temporaryPath (Path.ofString path) name)) (.file content)) := by
  obtain ⟨route, hroute⟩ := hfit.sibling
  have hparent := parentOf_temporaryPath hq hname hpaved hshort hroute
  have hsize : ¬maxName < (siblingName name).utf8ByteSize := hfit.short
  rw [place_temporaryPath (spelled_ofString path) hq hname] at hfree ⊢
  have hlocate : made.locateFile (temporaryPath (Path.ofString path) name) =
      .ok (made.place q.toString ++ [siblingName name]) := by
    unfold locateFile
    rw [hroute]
    dsimp only
    rw [hparent]
    simp [hsize, not_endsWithSlash_temporaryPath hroute, hfree]
  rw [writeFile, hlocate]
  rfl

theorem renameFile_sibling (hfit : Fit made path name) (hfree : ¬made.isDirectory (made.place path))
    {written : Tree}
    (hwrite : made.writeFile (temporaryPath (Path.ofString path) name) content = .ok written) :
    ∃ moved, written.renameFile (temporaryPath (Path.ofString path) name) path = .ok moved := by
  have hp := spelled_ofString path
  have hplace : made.place (Path.ofString path).toString = _ := place_eq_concat hp hq hname
  rw [toString_ofString] at hplace
  rw [hplace] at hfree
  obtain ⟨rfl, hne, hfree', hlocate⟩ := exists_of_writeFile hwrite
  rw [place_temporaryPath hp hq hname] at *
  obtain ⟨route, dots, hroute, hslash, hstart, hsteps, hdots⟩ := hfit.exists_steps hq hname
  obtain ⟨hwalk, hdir⟩ := walk_of_paved (hp.parent hq) hpaved hshort
  have hkeeps := keeps_put_file content hfree'
  have hother := get?_put_of_ne made (.file content) (show made.place q.toString ++ [name] ≠
    made.place q.toString ++ [siblingName name] by simpa using (siblingName_ne name).symm)
  have hthere := get?_put made (.file content) hne
  generalize made.put _ (.file content) = written at *
  have hdir' := hkeeps.directories _ hdir
  have hread : written.readBytes (temporaryPath (Path.ofString path) name) = .ok content := by
    simp only [readBytes, hlocate, hthere]
  have hroute' : written.route path = .ok route := (hkeeps.route_eq path).trans hroute
  have hparent : written.parentOf route = .ok (made.place q.toString, .name name) := by
    have hfront : written.walk route.start (q.walked ++ dots) = .ok (made.place q.toString) := by
      rw [walk_append, hstart, hkeeps.walk hwalk (isSome_of_isDirectory hdir')]
      exact (walk_dots hdots).resolve_right fun hfile => hfile.2 hdir'
    obtain ⟨r, -, -, habove, hdot, -⟩ := exists_parent hname
    rw [parentOf_concat hsteps, hfront]
    simp [hdir', habove, hdot]
  have hname' : ¬maxName < name.utf8ByteSize := by
    intro hlong
    exact hfit.short (Nat.lt_of_lt_of_le hlong (size_le_siblingName name))
  have hfile : written.isDirectory (made.place q.toString ++ [name]) = false := by
    simpa [isDirectory, hother] using hfree
  refine ⟨(written.erase (made.place q.toString ++ [siblingName name])).put
    (made.place q.toString ++ [name]) (.file content), ?_⟩
  unfold renameFile
  simp only [bind, Except.bind, hlocate, hread, hroute', hparent, hname', hslash, hfile, if_false,
    Bool.false_eq_true]
  rfl

omit hpaved hshort in
theorem fit_of_writeFile {written : Tree}
    (h : made.writeFile (temporaryPath (Path.ofString path) name) content = .ok written) :
    (∃ route, made.route (temporaryPath (Path.ofString path) name) = .ok route) ∧
      ¬TooLong (siblingName name) ∧
      ¬made.isDirectory (made.place (temporaryPath (Path.ofString path) name)) := by
  obtain ⟨-, -, hfree, -⟩ := exists_of_writeFile h
  unfold writeFile at h
  cases hlocate : made.locateFile (temporaryPath (Path.ofString path) name) with
  | error e =>
    rw [hlocate] at h
    cases h
  | ok loc =>
    obtain ⟨route, dir, last, hroute, hends, hsize, -⟩ := exists_of_locateFile hlocate
    have hsteps := (stepsOf_temporaryPath (spelled_ofString path) hq hname made).1
    rw [← (route_ok hroute).2, ← hends.steps] at hsteps
    obtain rfl : last = siblingName name := (List.append_singleton_inj.mp hsteps).2
    exact ⟨⟨route, hroute⟩, Nat.not_lt.mpr hsize, hfree⟩

omit hpaved hshort in
theorem fit_of_renameFile {source : String} {moved : Tree}
    (h : made.renameFile source path = .ok moved) :
    (∃ route, made.route path = .ok route ∧ route.endsWithSlash = false ∧
      route.steps.getLast? = some name) ∧ ¬made.isDirectory (made.place path) := by
  obtain ⟨-, route, dir, last, -, hroute, hends, -, hslash, hfree, -⟩ := exists_of_renameFile h
  have hplace : made.place (Path.ofString path).toString = _ :=
    place_eq_concat (spelled_ofString path) hq hname
  rw [toString_ofString, ← hends.eq_place hroute] at hplace
  obtain rfl : last = name := (List.append_singleton_inj.mp hplace).2
  refine ⟨⟨route, hroute, hslash, ?_⟩, hfree⟩
  rw [← hends.steps, List.getLast?_concat]

/-- Once the directories are there, a file is put in place iff its path is fit and neither the file nor its
sibling is a directory. -/
theorem putInPlace_ok_iff (content : ByteArray) : (putInPlace made path name content).2 = .ok () ↔
    Fit made path name ∧ ¬made.isDirectory (made.place path) ∧
      ¬made.isDirectory (made.place (temporaryPath (Path.ofString path) name)) := by
  unfold putInPlace
  dsimp only
  constructor
  · intro h
    cases hwrite : made.writeFile (temporaryPath (Path.ofString path) name) content with
    | error e =>
      rw [hwrite] at h
      cases h
    | ok written =>
      rw [hwrite] at h
      cases hmove : written.renameFile (temporaryPath (Path.ofString path) name) path with
      | error e =>
        simp only [hmove] at h
        split at h <;> cases h
      | ok moved =>
        have hkeeps := (writeFile_ok hwrite).1
        obtain ⟨hsibling, hshort', hfree'⟩ := fit_of_writeFile hq hname hwrite
        obtain ⟨htarget, hfree⟩ := fit_of_renameFile hq hname hmove
        rw [hkeeps.route_eq] at htarget
        rw [hkeeps.place_eq] at hfree
        exact ⟨⟨htarget, hsibling, hshort'⟩, fun hdir => hfree (hkeeps.directories _ hdir), hfree'⟩
  · rintro ⟨hfit, hfree, hfree'⟩
    have hwrite := writeFile_sibling hq hname hpaved hshort hfit hfree' content
    obtain ⟨moved, hmove⟩ := renameFile_sibling hq hname hpaved hshort hfit hfree hwrite
    simp only [hwrite, hmove]

end

end Placing

/-- What it takes to write a file, which has a name and a directory. -/
structure Writable (tree : Tree) (path name : String) (q : Path) : Prop where
  directories : tree.makesPath q.toString = .ok ()
  fit : Fit tree path name
  file : ¬tree.isDirectory (tree.place path)
  sibling : ¬tree.isDirectory (tree.place (temporaryPath (Path.ofString path) name))

theorem writeAtomic_named_ok_iff (hsound : tree.Sound) (hlevel : Level path)
    (hq : (Path.ofString path).parent? = some q) (hname : (Path.ofString path).name? = some name)
    (content : ByteArray) : (writeAtomic tree path content).2 = .ok () ↔ Writable tree path name q := by
  have hp := spelled_ofString path
  obtain ⟨hmakes, hpaved⟩ := makes_makeParents hsound hp (Level.ofString hlevel) hq
  have hkeeps := keeps_makeParents tree (Path.ofString path)
  obtain ⟨hfile, hsibling⟩ := (paves_makeParents hp hq tree).get?_place hname hq hlevel
  rw [writeAtomic_eq, hname]
  generalize makeParents tree (Path.ofString path) = parents at *
  obtain ⟨made, ended⟩ := parents
  cases ended with
  | error e =>
    constructor
    · intro hok
      cases hok
    · intro h
      rw [h.directories] at hmakes
      cases hmakes
  | ok u =>
    have hshort := short_of_makesPath (hp.parent hq) hmakes.symm
    have hput := putInPlace_ok_iff hq hname (hpaved rfl) hshort content
    rw [Fit.congr hkeeps, isDirectory, isDirectory, hkeeps.place_eq, hkeeps.place_eq, hfile,
      hsibling] at hput
    refine hput.trans ⟨?_, ?_⟩
    · rintro ⟨hfit, hplace, hbeside⟩
      exact ⟨hmakes.symm, hfit, hplace, hbeside⟩
    · intro h
      exact ⟨h.fit, h.file, h.sibling⟩

/-- A write succeeds iff the path has a name and nothing is in the way. -/
theorem writeAtomic_ok_iff (hsound : tree.Sound) (hlevel : Level path) (content : ByteArray) :
    (writeAtomic tree path content).2 = .ok () ↔
      ∃ name q, (Path.ofString path).name? = some name ∧ (Path.ofString path).parent? = some q ∧
        Writable tree path name q := by
  constructor
  · intro hok
    cases hname : (Path.ofString path).name? with
    | none =>
      rw [writeAtomic_eq, hname] at hok
      split at hok <;> cases hok
    | some name =>
      obtain ⟨q, hq, -⟩ := exists_parent hname
      exact ⟨name, q, rfl, hq, (writeAtomic_named_ok_iff hsound hlevel hq hname content).mp hok⟩
  · rintro ⟨name, q, hname, hq, h⟩
    exact (writeAtomic_named_ok_iff hsound hlevel hq hname content).mpr h

end RowTypes.Storage
