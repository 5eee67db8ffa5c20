import RowTypes.Proofs.Storage.Directories

/-!
Trees that have grown. Other files may have been written before a file is, and directories made for them
where nothing was. What is read and written then comes to the same, but for one thing: a name that is too
long is found in a directory, while before nothing was looked up where no directory was.

What is proved:
  1. `Grown.walk`, `Grown.readExisting`: a way on a tree that has grown, and what is read.
  2. `Grown.writeAtomic`: what is written comes to the same end.
  3. `writeAtomic_nameTooLong`: where a name is too long, nothing is written.
-/

namespace RowTypes.Storage

open Storage.Tree

variable {before after tree made : Tree} {near written : Location → Prop} {loc other : Location}
  {path name : String} {steps : List String} {route : Route} {p q : Path} {content : ByteArray}

namespace Tree

/-- All that is near is as it was, or a directory where nothing was. -/
structure Grown (near : Location → Prop) (before after : Tree) : Prop where
  workDir : after.workDir = before.workDir
  get? : ∀ loc, near loc → after.get? loc = before.get? loc ∨
    (before.get? loc = none ∧ after.get? loc = some .directory)

/-- What becomes of a way that failed because something was missing. -/
def Beyond (before after : Tree) : Except IoError Location → Prop
  | .ok loc => before.get? loc = none ∧ after.isDirectory loc
  | .error e => e = .notFound ∨ e = .nameTooLong

theorem enter_of_directory {step : String} (hdir : tree.isDirectory loc) (hup : step ≠ "..") :
    tree.enter loc step =
      if TooLong step then .error .nameTooLong
      else if (tree.get? (next loc step)).isSome then .ok (next loc step)
      else .error .notFound := by
  by_cases hdot : step = "."
  · subst hdot
    have hthere := isSome_of_isDirectory hdir
    simp [enter, hdir, next, hthere, show ¬TooLong "." by decide]
  · simp [enter, hdir, hdot, hup, next, TooLong]

theorem walk_of_file (hfile : ¬tree.isDirectory loc) :
    tree.walk loc steps = if steps = [] then .ok loc else .error .notDirectory := by
  cases steps with
  | nil => rfl
  | cons step steps =>
    rw [walk_cons]
    have henter : tree.enter loc step = .error .notDirectory := by simp [enter, hfile]
    rw [henter]
    rfl

theorem isSome_of_walk (hdir : tree.isDirectory loc) (hup : ".." ∉ steps)
    (hwalk : tree.walk loc steps = .ok other) : (tree.get? other).isSome := by
  rcases List.eq_nil_or_concat steps with rfl | ⟨front, last, rfl⟩
  · obtain rfl := Except.ok.inj hwalk
    exact isSome_of_isDirectory hdir
  · rw [List.concat_eq_append] at hwalk hup
    cases hfront : tree.walk loc front with
    | error e =>
      rw [walk_error_append hfront] at hwalk
      cases hwalk
    | ok mid =>
      rw [walk_concat hfront] at hwalk
      obtain ⟨hmid, -, -⟩ := enter_ok hwalk
      have hlast : last ≠ ".." := by
        rintro rfl
        simp at hup
      rw [enter_of_directory hmid hlast] at hwalk
      split at hwalk
      · cases hwalk
      · split at hwalk
        · next hthere =>
          cases hwalk
          exact hthere
        · cases hwalk

theorem walk_of_locate_error {e : IoError} (hroute : tree.route path = .ok route)
    (hlocate : tree.locate path = .error e) (hne : e ≠ .notDirectory) :
    tree.walk route.start route.steps = .error e := by
  unfold Tree.locate at hlocate
  rw [hroute] at hlocate
  dsimp only at hlocate
  split at hlocate
  · next hwalk => rwa [← Except.error.inj hlocate]
  · split at hlocate
    · exact absurd (Except.error.inj hlocate).symm hne
    · cases hlocate

theorem readExisting_of_notFound (h : tree.locate path = .error .notFound) :
    readExisting tree path = .ok "" := by
  simp only [readExisting, readText, readBytes, h]

theorem readExisting_of_error {e : IoError} (h : tree.locate path = .error e) (hne : e ≠ .notFound) :
    readExisting tree path = .error e := by
  simp only [readExisting, readText, readBytes, h]
  cases e with
  | notFound => exact absurd rfl hne
  | _ => rfl

namespace Grown

variable (h : Grown near before after)
include h

theorem isDirectory_eq (hloc : near loc) (hthere : (before.get? loc).isSome) :
    after.isDirectory loc = before.isDirectory loc := by
  rcases h.get? loc hloc with hsame | ⟨hnone, -⟩
  · simp only [isDirectory, hsame]
  · rw [hnone] at hthere
    cases hthere

variable (hsound : before.Sound)
include hsound

theorem walk_below (hup : ".." ∉ steps)
    (hnear : ∀ front, front <+: steps → near (front.foldl next loc))
    (hnone : before.get? loc = none) (hdir : after.isDirectory loc) :
    Beyond before after (after.walk loc steps) := by
  induction steps generalizing loc with
  | nil => exact ⟨hnone, hdir⟩
  | cons step steps ih =>
    rw [List.mem_cons, not_or] at hup
    rw [walk_cons, enter_of_directory hdir (Ne.symm hup.1)]
    have hnext : before.get? (next loc step) = none := by
      obtain ⟨rest, hrest⟩ := prefix_foldl_next (show ".." ∉ [step] by simpa using hup.1) loc
      rw [← show [step].foldl next loc = next loc step from rfl, ← hrest]
      exact hsound.nothing_below hnone rest
    split
    · exact .inr rfl
    · rcases h.get? _ (hnear [step] ⟨steps, rfl⟩) with hsame | ⟨-, hmade⟩
      · rw [show after.get? (next loc step) = none from hsame.trans hnext]
        exact .inl rfl
      · rw [show after.get? (next loc step) = some .directory from hmade]
        exact ih hup.2 (fun front hfront => hnear (step :: front) (List.cons_prefix_cons.mpr ⟨rfl, hfront⟩))
          hnext (isDirectory_iff.mpr hmade)

/-- A way comes to the same, or it failed because something was missing. -/
theorem walk (hup : ".." ∉ steps) (hnear : ∀ front, front <+: steps → near (front.foldl next loc))
    (hdir : before.isDirectory loc) :
    after.walk loc steps = before.walk loc steps ∨
      (before.walk loc steps = .error .notFound ∧ Beyond before after (after.walk loc steps)) := by
  induction steps generalizing loc with
  | nil => exact .inl rfl
  | cons step steps ih =>
    rw [List.mem_cons, not_or] at hup
    have hdir' : after.isDirectory loc :=
      (h.isDirectory_eq (hnear [] List.nil_prefix) (isSome_of_isDirectory hdir)).trans hdir
    have hmore : ∀ front, front <+: steps → near (front.foldl next (next loc step)) :=
      fun front hfront => hnear (step :: front) (List.cons_prefix_cons.mpr ⟨rfl, hfront⟩)
    rw [walk_cons, walk_cons, enter_of_directory hdir (Ne.symm hup.1),
      enter_of_directory hdir' (Ne.symm hup.1)]
    split
    · exact .inl rfl
    · rcases h.get? _ (hnear [step] ⟨steps, rfl⟩) with hsame | ⟨hnone, hmade⟩
      · rw [show after.get? (next loc step) = before.get? (next loc step) from hsame]
        cases hentry : before.get? (next loc step) with
        | none => exact .inl rfl
        | some node =>
          change after.walk (next loc step) steps = before.walk (next loc step) steps ∨
            (before.walk (next loc step) steps = .error .notFound ∧
              Beyond before after (after.walk (next loc step) steps))
          cases node with
          | directory => exact ih hup.2 hmore (isDirectory_iff.mpr hentry)
          | file content =>
            have hfile : ¬before.isDirectory (next loc step) := by simp [isDirectory, hentry]
            have hfile' : ¬after.isDirectory (next loc step) := by
              simp [isDirectory, show after.get? (next loc step) = _ from hsame.trans hentry]
            exact .inl ((walk_of_file hfile').trans (walk_of_file hfile).symm)
      · rw [show before.get? (next loc step) = none from hnone,
          show after.get? (next loc step) = some .directory from hmade]
        exact .inr ⟨rfl, h.walk_below hsound hup.2 hmore hnone (isDirectory_iff.mpr hmade)⟩

variable (hcovers : Covers near before path) (hlevel : Level path)
include hcovers hlevel

/-- The way of a path comes to the same, and where it leads to is a directory if it was one, or it failed
because something was missing. -/
theorem walk_route (hroute : before.route path = .ok route) :
    (after.walk route.start route.steps = before.walk route.start route.steps ∧
        ∀ found, before.walk route.start route.steps = .ok found →
          after.isDirectory found = before.isDirectory found) ∨
      (before.walk route.start route.steps = .error .notFound ∧
        Beyond before after (after.walk route.start route.steps)) := by
  obtain ⟨hstart, hsteps⟩ := route_ok hroute
  have hdir : before.isDirectory route.start := hstart ▸ hsound.isDirectory_origin path
  have hnear := hcovers.of_route hroute
  have hup : ".." ∉ route.steps := hsteps ▸ hlevel
  rcases h.walk hsound hup hnear hdir with hsame | hmissing
  · refine .inl ⟨hsame, fun found hwalk => ?_⟩
    have hfound : near found := walk_eq_foldl hwalk ▸ hnear _ (List.prefix_refl _)
    exact h.isDirectory_eq hfound (isSome_of_walk hdir hup hwalk)
  · exact .inr hmissing

omit hsound hcovers hlevel in
theorem route_eq (path : String) : after.route path = before.route path := by
  rw [Tree.route, Tree.route, h.workDir]

theorem locate : after.locate path = before.locate path ∨
    ∃ route, after.route path = .ok route ∧ before.locate path = .error .notFound ∧
      Beyond before after (after.locate path) := by
  unfold Tree.locate
  rw [h.route_eq]
  cases hroute : before.route path with
  | error e => exact .inl rfl
  | ok route =>
    dsimp only
    rcases h.walk_route hsound hcovers hlevel hroute with ⟨hsame, hfound⟩ | ⟨hmissing, hbeyond⟩
    · left
      rw [hsame]
      cases hwalk : before.walk route.start route.steps with
      | error e => rfl
      | ok found => simp only [hfound found hwalk]
    · right
      rw [hmissing]
      refine ⟨route, rfl, rfl, ?_⟩
      cases hwalk : after.walk route.start route.steps with
      | error e =>
        rw [hwalk] at hbeyond
        exact hbeyond
      | ok found =>
        rw [hwalk] at hbeyond
        simp only [hbeyond.2, Bool.not_true, Bool.and_false, Bool.false_eq_true, if_false]
        exact hbeyond

/-- A file reads as before, or a name on its way is too long where nothing was found before. -/
theorem readExisting (hplace : after.get? (before.place path) = before.get? (before.place path)) :
    readExisting after path = readExisting before path ∨
      (readExisting before path = .ok "" ∧ readExisting after path = .error .nameTooLong ∧
        ∃ route, after.route path = .ok route ∧
          after.walk route.start route.steps = .error .nameTooLong) := by
  have hplaceEq : after.place path = before.place path := place_congr h.workDir
  rcases h.locate hsound hcovers hlevel with hsame | ⟨route, hroute, hmissing, hbeyond⟩
  · left
    rw [Storage.readExisting, Storage.readExisting, readText, readText, readBytes, readBytes, hsame]
    cases hlocate : before.locate path with
    | error e => rfl
    | ok found =>
      obtain rfl := locate_eq_place hlocate
      simp only [hplace]
  · have hbefore := readExisting_of_notFound hmissing
    cases hlocate : after.locate path with
    | ok found =>
      obtain rfl := locate_eq_place hlocate
      rw [hlocate, hplaceEq] at hbeyond
      obtain ⟨hnone, hdir⟩ := hbeyond
      rw [isDirectory_iff, hplace, hnone] at hdir
      cases hdir
    | error e =>
      rw [hlocate] at hbeyond
      rcases hbeyond with rfl | rfl
      · exact .inl ((readExisting_of_notFound hlocate).trans hbefore.symm)
      · exact .inr ⟨hbefore, readExisting_of_error hlocate (by simp), route, hroute,
          walk_of_locate_error hroute hlocate (by simp)⟩

omit h hsound hcovers hlevel in
/-- Beyond what was missing, only a long name hinders. -/
theorem makes_beyond (hbeyond : Beyond before after (after.walk loc steps)) :
    after.makes loc steps =
      if ∃ step ∈ steps, TooLong step then .error .nameTooLong else .ok () := by
  cases hwalk : after.walk loc steps with
  | ok found =>
    rw [hwalk] at hbeyond
    have hshort : ¬∃ step ∈ steps, TooLong step := by
      rintro ⟨step, hstep, hlong⟩
      exact not_tooLong_of_walk hwalk step hstep hlong
    rw [if_neg hshort, makes, hwalk]
    exact if_pos hbeyond.2
  | error e =>
    rw [hwalk] at hbeyond
    rcases hbeyond with rfl | rfl
    · exact makes_of_notFound hwalk
    · rw [if_pos (exists_tooLong_of_walk hwalk), makes, hwalk]

theorem makesPath : after.makesPath path = before.makesPath path := by
  unfold Tree.makesPath
  rw [h.route_eq]
  split
  · rfl
  · cases hroute : before.route path with
    | error e => rfl
    | ok route =>
      change after.makes route.start route.steps = before.makes route.start route.steps
      rcases h.walk_route hsound hcovers hlevel hroute with ⟨hsame, hfound⟩ | ⟨hmissing, hbeyond⟩
      · rw [makes, makes, hsame]
        cases hwalk : before.walk route.start route.steps with
        | error e => cases e <;> rfl
        | ok found => simp only [hfound found hwalk]
      · rw [makes_beyond hbeyond, makes_of_notFound hmissing]

end Grown

end Tree

/-! ## Directories of a file -/

theorem Level.ofString (h : Level path) : Level (Path.ofString path).toString := by
  rwa [toString_ofString]

theorem mem_walked_of_mem_steps {step : String} (h : step ∈ p.steps) : step ∈ p.walked := by
  obtain ⟨hpart, hmatters⟩ := List.mem_filter.mp h
  simp only [Path.matters, Bool.not_eq_true', Bool.or_eq_false_iff] at hmatters
  rw [Path.walked, List.mem_append]
  exact .inr (List.mem_filter.mpr ⟨hpart, by simpa using hmatters.1⟩)

theorem mem_steps_of_mem_walked {step : String} (h : step ∈ p.walked) (hdot : step ≠ ".") :
    step ∈ p.steps := by
  rw [Path.walked, List.mem_append] at h
  rcases h with hstart | hpart
  · split at hstart
    · exact absurd (List.mem_singleton.mp hstart) hdot
    · cases hstart
  · obtain ⟨hpart, hne⟩ := List.mem_filter.mp hpart
    have hmatters : Path.matters step := by simp [Path.matters, hdot, bne_iff_ne.mp hne]
    exact List.mem_filter.mpr ⟨hpart, hmatters⟩

theorem Level.steps_eq_nil (h : Level p.toString) (hp : p.Spelled) (hname : p.name? = none) :
    p.steps = [] := by
  rcases List.eq_nil_or_concat p.steps with hnil | ⟨front, last, hsteps⟩
  · exact hnil
  · rw [List.concat_eq_append] at hsteps
    have hlast : last = ".." := by
      by_contra hne
      simp [Path.name?, hsteps, Option.filter, hne] at hname
    refine absurd ?_ h
    rw [stepsOf_toString hp, ← hlast]
    exact mem_walked_of_mem_steps (by simp [hsteps])

theorem Level.exists_name (h : Level p.toString) (hp : p.Spelled) (hne : p.steps ≠ []) :
    ∃ name, p.name? = some name := by
  by_contra hnone
  refine hne (h.steps_eq_nil hp (Option.eq_none_iff_forall_ne_some.mpr fun name hname => ?_))
  exact hnone ⟨name, hname⟩

theorem name?_of_parent?_eq_none (h : p.parent? = none) : p.name? = none := by
  by_contra hname
  obtain ⟨name, hname⟩ := Option.ne_none_iff_exists'.mp hname
  obtain ⟨q, hparent, -⟩ := exists_parent hname
  rw [h] at hparent
  cases hparent

theorem paves_makeParents (hp : p.Spelled) (hq : p.parent? = some q) (tree : Tree) :
    Paves q.toString tree (makeParents tree p).1 := by
  rw [makeParents, hq]
  exact paves_makeDirectories (hp.parent hq) tree _

theorem makes_makeParents (hsound : tree.Sound) (hp : p.Spelled) (hlevel : Level p.toString)
    (hq : p.parent? = some q) : Makes tree q.toString (makeParents tree p) := by
  rw [makeParents, hq]
  exact makes_makeDirectories hsound (hp.parent hq) (Path.Trimmed.parent hq) (hlevel.parent hp hq)
    (Nat.lt_succ_self _)

theorem Passes.of_path (hp : p.Spelled) (hq : p.parent? = some q) (hne : p.steps ≠ [])
    (hpass : Passes tree p.toString loc) : Passes tree q.toString loc ∨ loc = tree.place p.toString := by
  obtain ⟨front, hfront, rfl⟩ := hpass
  obtain ⟨dots, last, rest, hwalked, hdots, -, hrest, -⟩ := walked_eq_of_parent hq hne
  have horigin := originOf_parent hp hq tree
  have hplace := place_eq_foldl tree p.toString
  rw [stepsOf_toString hp, hwalked] at hfront hplace
  rw [List.foldl_append, foldl_next_dots hrest] at hplace
  obtain ⟨whole, hwhole, hsame⟩ := exists_prefix_of_dots hrest hfront (originOf tree p.toString)
  rw [← hsame]
  rcases List.prefix_concat_iff.mp hwhole with rfl | hwhole
  · exact .inr hplace.symm
  · left
    obtain ⟨short, hshort, hend⟩ := exists_prefix_of_dots hdots hwhole (originOf tree p.toString)
    exact ⟨short, by rwa [stepsOf_toString (hp.parent hq)], by rw [horigin, hend]⟩

/-! ## Writing -/

section Sibling
variable (hname : (Path.ofString path).name? = some name)
  (hq : (Path.ofString path).parent? = some q)
include hname hq

theorem covers_of_parent (hplace : written (tree.place path)) :
    Covers (fun loc => Passes tree q.toString loc ∨ written loc) tree path := by
  intro loc hpass
  have hp := spelled_ofString path
  have hne : (Path.ofString path).steps ≠ [] := by
    obtain ⟨r, -, hsteps, -⟩ := exists_parent hname
    simp [hsteps]
  rw [← toString_ofString path] at hpass hplace
  rcases hpass.of_path hp hq hne with habove | rfl
  · exact .inl habove
  · exact .inr hplace

theorem covers_temporaryPath
    (hplace : written (tree.place (temporaryPath (Path.ofString path) name))) :
    Covers (fun loc => Passes tree q.toString loc ∨ written loc) tree
      (temporaryPath (Path.ofString path) name) := by
  intro loc hpass
  rcases hpass.of_temporaryPath (spelled_ofString path) hq hname with habove | rfl
  · exact .inl habove
  · exact .inr hplace

variable (hlevel : Level path)
include hlevel

theorem Paves.get?_place (h : Paves q.toString tree made) :
    made.get? (tree.place path) = tree.get? (tree.place path) ∧
      made.get? (tree.place (temporaryPath (Path.ofString path) name)) =
        tree.get? (tree.place (temporaryPath (Path.ofString path) name)) := by
  have hp := spelled_ofString path
  have hlevel' := (Level.ofString hlevel).parent hp hq
  have hplace : tree.place _ = _ := place_eq_concat hp hq hname
  rw [toString_ofString] at hplace
  rw [hplace, place_temporaryPath hp hq hname]
  exact ⟨(h _).resolve_right fun hpass => not_passes_below hlevel' rfl _ hpass.1,
    (h _).resolve_right fun hpass => not_passes_below hlevel' rfl _ hpass.1⟩

end Sibling

/-- The directories of a path were made on a tree, and nothing else. -/
structure Readied (path : String) (tree made : Tree) : Prop where
  workDir : made.workDir = tree.workDir
  paves : Paves path tree made
  paved : made.Paved path

theorem readied_makeParents (hsound : tree.Sound) (hp : p.Spelled) (hlevel : Level p.toString)
    (hq : p.parent? = some q) (hmade : makeParents tree p = (made, .ok ())) :
    Readied q.toString tree made := by
  have hworkDir := (keeps_makeParents tree p).workDir
  have hpaves := paves_makeParents hp hq tree
  have hmakes := makes_makeParents hsound hp hlevel hq
  rw [hmade] at hworkDir hpaves hmakes
  exact ⟨hworkDir, hpaves, hmakes.paved rfl⟩

theorem Readied.agree {made' : Tree} (h : Readied q.toString before made)
    (h' : Readied q.toString after made') (hworkDir : after.workDir = before.workDir)
    (hentries : ∀ loc, written loc → made.get? loc = made'.get? loc) :
    Agree (fun loc => Passes made q.toString loc ∨ written loc) made made' := by
  have hsame : made.workDir = made'.workDir := by rw [h.workDir, h'.workDir, hworkDir]
  refine ⟨hsame, fun loc hloc => ?_⟩
  rcases hloc with hpass | hloc
  · rw [isDirectory_iff.mp (h.paved loc hpass),
      isDirectory_iff.mp (h'.paved loc ((passes_congr hsame).mp hpass))]
  · exact hentries loc hloc

/-- Once the directories are ready, the content comes to the same end, if the file and its sibling are as
they were. -/
theorem Readied.putInPlace {made' : Tree} (h : Readied q.toString before made)
    (h' : Readied q.toString after made') (hname : (Path.ofString path).name? = some name)
    (hq : (Path.ofString path).parent? = some q) (hlevel : Level path)
    (hworkDir : after.workDir = before.workDir)
    (hplace : after.get? (before.place path) = before.get? (before.place path))
    (hsibling : ∀ loc ∈ siblingPlace? before path, after.get? loc = before.get? loc)
    (content : ByteArray) :
    (Storage.putInPlace made' path name content).2 = (Storage.putInPlace made path name content).2 := by
  have hbeside (tree : Tree) (htree : tree.workDir = before.workDir) :
      tree.place (temporaryPath (Path.ofString path) name) =
        before.place (temporaryPath (Path.ofString path) name) := place_congr htree
  have hsibling' := hsibling _ (show siblingPlace? before path = some _ by
    rw [siblingPlace?, hname]
    rfl)
  obtain ⟨hfile, hnext⟩ := h.paves.get?_place hname hq hlevel
  obtain ⟨hfile', hnext'⟩ := h'.paves.get?_place hname hq hlevel
  rw [place_congr hworkDir, hplace, ← hfile] at hfile'
  rw [hbeside after hworkDir, hsibling', ← hnext] at hnext'
  have hsame : ∀ loc, (loc = before.place path ∨
      loc = before.place (temporaryPath (Path.ofString path) name)) →
      made.get? loc = made'.get? loc := by
    rintro loc (rfl | rfl)
    · exact hfile'.symm
    · exact hnext'.symm
  exact ((h.agree h' hworkDir hsame).putInPlace (covers_of_parent hname hq (.inl (place_congr h.workDir)))
    (covers_temporaryPath hname hq (.inr (hbeside made h.workDir))) content).2.symm

/-- What is written on a tree that has grown comes to the same end, if the file and its sibling are as
they were. -/
theorem Tree.Grown.writeAtomic (h : Grown near before after) (hsound : before.Sound)
    (hsound' : after.Sound) (hcovers : Covers near before path) (hlevel : Level path)
    (hplace : after.get? (before.place path) = before.get? (before.place path))
    (hsibling : ∀ loc ∈ siblingPlace? before path, after.get? loc = before.get? loc)
    (content : ByteArray) :
    (writeAtomic after path content).2 = (writeAtomic before path content).2 := by
  have hp := spelled_ofString path
  have hlevel' := Level.ofString hlevel
  rw [writeAtomic_eq, writeAtomic_eq]
  cases hq : (Path.ofString path).parent? with
  | none => simp only [makeParents, hq, name?_of_parent?_eq_none hq]
  | some q =>
    have hway : Covers near before q.toString := by
      intro loc hpass
      have hpass := hpass.of_parent hp hq
      rw [toString_ofString] at hpass
      exact hcovers loc hpass
    have hresult : (makeParents after (Path.ofString path)).2 =
        (makeParents before (Path.ofString path)).2 := by
      rw [(makes_makeParents hsound' hp hlevel' hq).result,
        (makes_makeParents hsound hp hlevel' hq).result,
        h.makesPath hsound hway (hlevel'.parent hp hq)]
    cases hmade : makeParents before (Path.ofString path) with
    | mk made ended =>
      cases hmade' : makeParents after (Path.ofString path) with
      | mk made' ended' =>
        rw [hmade, hmade'] at hresult
        obtain rfl : ended' = ended := hresult
        cases ended' with
        | error e => rfl
        | ok u =>
          cases hname : (Path.ofString path).name? with
          | none => rfl
          | some name =>
            exact (readied_makeParents hsound hp hlevel' hq hmade).putInPlace
              (readied_makeParents hsound' hp hlevel' hq hmade') hname hq hlevel h.workDir hplace
              hsibling content

/-! ## Names that are too long -/

theorem mem_of_mem_join {base rest : String} {c : Char} (h : c ∈ (join base rest).toList) :
    c ∈ base.toList ∨ c = '/' ∨ c ∈ rest.toList := by
  unfold join at h
  split at h
  · exact .inr (.inr h)
  · split at h
    · rw [String.toList_append, List.mem_append] at h
      exact h.imp_right .inr
    · simpa [or_assoc] using h

theorem mem_intercalate {part : List Char} {parts : List (List Char)} {c : Char}
    (hpart : part ∈ parts) (h : c ∈ part) : c ∈ ['/'].intercalate parts := by
  induction parts with
  | nil => cases hpart
  | cons first parts ih =>
    cases parts with
    | nil =>
      obtain rfl := List.mem_singleton.mp hpart
      simpa using h
    | cons second parts =>
      rw [List.intercalate_cons_cons, List.mem_append, List.mem_append]
      rcases List.mem_cons.mp hpart with rfl | hpart
      · exact .inl (.inl h)
      · exact .inr (ih hpart)

theorem mem_temporaryPath {c : Char} (hq : (Path.ofString path).parent? = some q)
    (hname : (Path.ofString path).name? = some name)
    (h : c ∈ (temporaryPath (Path.ofString path) name).toList) :
    c ∈ path.toList ∨ c ∈ "/.tmp".toList := by
  have hpath := toString_ofString path
  rw [temporaryPath, hq] at h
  rcases mem_of_mem_join h with hdir | rfl | hbeside
  · left
    obtain ⟨rest, hrest⟩ := exists_toString_parent hq
    rw [← hpath, hrest, String.toList_append]
    exact List.mem_append_left _ hdir
  · right
    decide
  · rw [← siblingName, toList_siblingName] at hbeside
    simp only [List.mem_cons, List.mem_append] at hbeside
    rcases hbeside with rfl | hchar | hbeside
    · right
      decide
    · left
      obtain ⟨r, -, hsteps, -⟩ := exists_parent hname
      have hmem : name ∈ (Path.ofString path).steps := by simp [hsteps]
      rw [← hpath, toList_toString]
      exact List.mem_append_right _
        (mem_intercalate (List.mem_map_of_mem (List.mem_filter.mp hmem).1) hchar)
    · right
      simp only [List.mem_nil_iff, or_false] at hbeside
      rcases hbeside with rfl | rfl | rfl | rfl <;> decide

theorem route_temporaryPath_error {e : IoError} (hq : (Path.ofString path).parent? = some q)
    (hname : (Path.ofString path).name? = some name) (hroute : tree.route path = .ok route)
    (h : tree.route (temporaryPath (Path.ofString path) name) = .error e) : e = .nameTooLong := by
  have hzero : '\x00' ∉ path.toList := by
    intro hmem
    rw [Tree.route, if_pos (List.contains_iff_mem.mpr hmem)] at hroute
    cases hroute
  have hempty : temporaryPath (Path.ofString path) name ≠ "" := by
    intro hempty
    have hsteps := (stepsOf_temporaryPath (spelled_ofString path) hq hname tree).1
    rw [hempty] at hsteps
    simp at hsteps
  unfold Tree.route at h
  split at h
  · next hcontains =>
    rcases mem_temporaryPath hq hname (List.contains_iff_mem.mp hcontains) with hmem | hmem
    · exact absurd hmem hzero
    · exact absurd hmem (by decide)
  · split at h
    · next hnone => exact absurd (by simpa using hnone) hempty
    · split at h
      · exact (Except.error.inj h).symm
      · cases h

theorem parentOf_temporaryPath (hq : (Path.ofString path).parent? = some q)
    (hname : (Path.ofString path).name? = some name) (hpaved : made.Paved q.toString)
    (hshort : ∀ step ∈ q.walked, ¬TooLong step)
    (hroute : made.route (temporaryPath (Path.ofString path) name) = .ok route) :
    made.parentOf route = .ok (made.place q.toString, .name (siblingName name)) := by
  have hp := spelled_ofString path
  obtain ⟨hstart, hall⟩ := route_ok hroute
  obtain ⟨hsteps, horigin⟩ := stepsOf_temporaryPath hp hq hname made
  rw [hsteps, stepsOf_toString (hp.parent hq)] at hall
  obtain ⟨hwalk, hdir⟩ := walk_of_paved (hp.parent hq) hpaved hshort
  rw [parentOf_concat hall, hstart, horigin, hwalk]
  simp [hdir, siblingName_plain]

theorem writeFile_nameTooLong (hq : (Path.ofString path).parent? = some q)
    (hname : (Path.ofString path).name? = some name) (hroute : made.route path = .ok route)
    (hpaved : made.Paved q.toString) (hshort : ∀ step ∈ q.walked, ¬TooLong step)
    (hlong : TooLong name) (content : ByteArray) :
    made.writeFile (temporaryPath (Path.ofString path) name) content = .error .nameTooLong := by
  have hlocate : made.locateFile (temporaryPath (Path.ofString path) name) =
      .error .nameTooLong := by
    unfold locateFile
    cases hbeside : made.route (temporaryPath (Path.ofString path) name) with
    | error e => exact congrArg Except.error (route_temporaryPath_error hq hname hroute hbeside)
    | ok beside =>
      have hsize : maxName < (siblingName name).utf8ByteSize :=
        Nat.lt_of_lt_of_le hlong (size_le_siblingName name)
      dsimp only
      rw [parentOf_temporaryPath hq hname hpaved hshort hbeside]
      simp [hsize]
  rw [writeFile, hlocate]
  rfl

theorem putInPlace_error {e : IoError}
    (h : tree.writeFile (temporaryPath (Path.ofString path) name) content = .error e) :
    putInPlace tree path name content = (tree, .error e) := by
  unfold putInPlace
  dsimp only
  rw [h]

theorem makesPath_eq (hq : (Path.ofString path).parent? = some q) (hne : q.toString ≠ "")
    (hroute : tree.route path = .ok route) :
    tree.makesPath q.toString = tree.makes (originOf tree path) q.walked := by
  have hmakes := makesPath_parent (spelled_ofString path) hq hne
    (show tree.route (Path.ofString path).toString = .ok route by rwa [toString_ofString])
  rwa [toString_ofString] at hmakes

theorem makesPath_of_walk_error (hq : (Path.ofString path).parent? = some q)
    (hroute : tree.route path = .ok route)
    (hwalk : tree.walk (originOf tree path) q.walked = .error .nameTooLong) :
    tree.makesPath q.toString = .error .nameTooLong := by
  have hne : q.toString ≠ "" := by
    intro hempty
    rw [walked_of_empty ((spelled_ofString path).parent hq) hempty] at hwalk
    cases hwalk
  rw [makesPath_eq hq hne hroute, makes, hwalk]

theorem makesPath_of_walk_ok {dir : Location} (hq : (Path.ofString path).parent? = some q)
    (hroute : tree.route path = .ok route)
    (hwalk : tree.walk (originOf tree path) q.walked = .ok dir) (hdir : tree.isDirectory dir) :
    tree.makesPath q.toString = .ok () := by
  by_cases hne : q.toString = ""
  · simp [Tree.makesPath, hne]
  · rw [makesPath_eq hq hne hroute, makes, hwalk]
    exact if_pos hdir

/-- Where a name on the way to a file is found to be too long, its directory cannot be made, or it is the
name of the file that is too long. -/
theorem makesPath_of_nameTooLong (hlevel : Level path) (hroute : tree.route path = .ok route)
    (hwalk : tree.walk route.start route.steps = .error .nameTooLong) :
    ∃ name q, (Path.ofString path).name? = some name ∧ (Path.ofString path).parent? = some q ∧
      (tree.makesPath q.toString = .error .nameTooLong ∨
        (tree.makesPath q.toString = .ok () ∧ TooLong name)) := by
  have hp := spelled_ofString path
  obtain ⟨hstart, hsteps⟩ := route_ok hroute
  obtain ⟨step, hstep, hlong⟩ := exists_tooLong_of_walk hwalk
  rw [← toString_ofString path, stepsOf_toString hp] at hsteps
  have hmatters : step ∈ (Path.ofString path).steps := by
    refine mem_steps_of_mem_walked (hsteps ▸ hstep) ?_
    rintro rfl
    exact absurd hlong (by decide)
  obtain ⟨name, hname⟩ := (Level.ofString hlevel).exists_name hp (List.ne_nil_of_mem hmatters)
  obtain ⟨q, hq, hlast, -⟩ := exists_parent hname
  refine ⟨name, q, hname, hq, ?_⟩
  obtain ⟨rest, hrest⟩ := walked_parent hq
  rw [hsteps, ← hrest, walk_append, hstart] at hwalk
  cases hfront : tree.walk (originOf tree path) q.walked with
  | error e =>
    left
    rw [hfront] at hwalk
    exact makesPath_of_walk_error hq hroute (hfront.trans hwalk)
  | ok dir =>
    right
    rw [hfront] at hwalk
    change tree.walk dir rest = _ at hwalk
    have hdir : tree.isDirectory dir := by
      by_contra hfile
      rw [walk_of_file hfile] at hwalk
      split at hwalk <;> cases hwalk
    refine ⟨makesPath_of_walk_ok hq hroute hfront hdir, ?_⟩
    rw [hlast, List.mem_append, List.mem_singleton] at hmatters
    rcases hmatters with habove | rfl
    · exact absurd hlong (not_tooLong_of_walk hfront step (mem_walked_of_mem_steps habove))
    · exact hlong

/-- Where a name is found to be too long, nothing can be written. -/
theorem writeAtomic_nameTooLong (hsound : tree.Sound) (hlevel : Level path)
    (hroute : tree.route path = .ok route)
    (hwalk : tree.walk route.start route.steps = .error .nameTooLong) (content : ByteArray) :
    (writeAtomic tree path content).2 = .error .nameTooLong := by
  have hp := spelled_ofString path
  have hlevel' := Level.ofString hlevel
  obtain ⟨name, q, hname, hq, hmakes⟩ := makesPath_of_nameTooLong hlevel hroute hwalk
  have hresult := (makes_makeParents hsound hp hlevel' hq).result
  have hroute' := (keeps_makeParents tree (Path.ofString path)).route_eq path
  rw [writeAtomic_eq]
  cases hmade : makeParents tree (Path.ofString path) with
  | mk made ended =>
    rw [hmade] at hresult hroute'
    -- The name that is too long is that of a directory, which is not made, or that of the file.
    rcases hmakes with hfailed | ⟨hready, hlong⟩
    · obtain rfl : ended = .error .nameTooLong := hresult.trans hfailed
      rfl
    · obtain rfl : ended = .ok () := hresult.trans hready
      have hrefused := writeFile_nameTooLong hq hname (hroute'.trans hroute)
        (readied_makeParents hsound hp hlevel' hq hmade).paved
        (short_of_makesPath (hp.parent hq) hready) hlong content
      simp only [hname, putInPlace_error hrefused]

end RowTypes.Storage
