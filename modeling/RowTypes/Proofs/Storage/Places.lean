import RowTypes.Storage.Tree

/-!
Places: the location that a path names, and what an operation at one place leaves as it was. There are
no links between the entries of a tree, so a path that leads anywhere leads to its place, which its text
and the working directory alone decide.

What is proved:
  1. `locate_eq_place`, `locateFile_eq_place`: every operation works at the place of its path.
  2. `Keeps`: directories stay directories, and no file changes but those that are touched. One lemma
     for each operation says which places it touches.
  3. `Keeps.locate`: a path that leads to an entry goes on to lead there as long as the entry is there.
-/

namespace RowTypes.Storage.Tree

variable {tree before after : Tree} {loc other : Location} {node : Node} {path : String}

/-! ## Entries -/

theorem lookup_filter_ne {entries : List (Location × Node)} (h : other ≠ loc) :
    (entries.filter fun entry => entry.1 != loc).lookup other = entries.lookup other := by
  induction entries with
  | nil => rfl
  | cons entry rest ih =>
    obtain ⟨here, node⟩ := entry
    by_cases hhere : here = loc
    · have hskip : (other == loc) = false := beq_false_of_ne h
      simp [hhere, List.lookup_cons, ih, hskip]
    · simp [hhere, List.lookup_cons, ih]

theorem lookup_filter_self (entries : List (Location × Node)) (loc : Location) :
    (entries.filter fun entry => entry.1 != loc).lookup loc = none := by
  apply List.lookup_eq_none_iff.mpr
  intro entry hentry
  have hne : entry.1 ≠ loc := by simpa using (List.mem_filter.mp hentry).2
  exact bne_iff_ne.mpr hne.symm

@[simp] theorem get?_nil (tree : Tree) : tree.get? [] = some .directory := rfl

@[simp] theorem get?_put (tree : Tree) (node : Node) (h : loc ≠ []) :
    (tree.put loc node).get? loc = some node := by
  simp [get?, put, h, List.lookup_append, lookup_filter_self]

@[simp] theorem get?_put_of_ne (tree : Tree) (node : Node) (h : other ≠ loc) :
    (tree.put loc node).get? other = tree.get? other := by
  have hne : (other == loc) = false := beq_false_of_ne h
  simp [get?, put, List.lookup_append, lookup_filter_ne h, List.lookup_cons, hne]

@[simp] theorem get?_erase (tree : Tree) (h : loc ≠ []) : (tree.erase loc).get? loc = none := by
  simp [get?, erase, h, lookup_filter_self]

@[simp] theorem get?_erase_of_ne (tree : Tree) (h : other ≠ loc) :
    (tree.erase loc).get? other = tree.get? other := by
  simp [get?, erase, lookup_filter_ne h]

@[simp] theorem workDir_put (tree : Tree) (loc : Location) (node : Node) :
    (tree.put loc node).workDir = tree.workDir := rfl

@[simp] theorem workDir_erase (tree : Tree) (loc : Location) :
    (tree.erase loc).workDir = tree.workDir := rfl

theorem isDirectory_iff : tree.isDirectory loc ↔ tree.get? loc = some .directory := by
  simp [isDirectory]

theorem isDirectory_of_erase (h : (tree.erase loc).isDirectory other) : tree.isDirectory other := by
  rw [isDirectory_iff] at h ⊢
  by_cases hother : other = loc
  · by_cases hroot : loc = []
    · simp [hother, hroot]
    · simp [hother, get?_erase _ hroot] at h
  · rwa [get?_erase_of_ne _ hother] at h

/-! ## Places -/

/-- Where a step leads, whether or not anything is there. -/
def next (loc : Location) (step : String) : Location :=
  if step = "." then loc else if step = ".." then loc.dropLast else loc ++ [step]

/-- Where a path leads, whether or not anything is there. -/
def place (tree : Tree) (path : String) : Location :=
  ((Path.split path.toList).filter (· != "")).foldl next
    (if path.toList.head? = some '/' then [] else tree.workDir)

theorem enter_ok {step : String} (h : tree.enter loc step = .ok other) :
    tree.isDirectory loc ∧ other = next loc step ∧
      (step = "." ∨ step = ".." ∨ step.utf8ByteSize ≤ maxName ∧ (tree.get? other).isSome) := by
  unfold enter at h
  unfold next
  split at h
  · simp at h
  · next hdir =>
    refine ⟨by simpa using hdir, ?_⟩
    split at h
    · next hhere => simp_all
    · split at h
      · simp_all
      · split at h
        · simp at h
        · split at h
          · next hlong hsome =>
            cases h
            simp_all
          · simp at h

theorem enter_eq {step : String} (hdir : tree.isDirectory loc)
    (hstep : step = "." ∨ step = ".." ∨
      step.utf8ByteSize ≤ maxName ∧ (tree.get? (next loc step)).isSome) :
    tree.enter loc step = .ok (next loc step) := by
  unfold enter next at *
  by_cases hhere : step = "."
  · simp [hdir, hhere]
  · by_cases habove : step = ".."
    · simp [hdir, habove]
    · simp only [hhere, habove, if_false, false_or] at hstep
      simp [hdir, hhere, habove, hstep.2, Nat.not_lt.mpr hstep.1]

theorem walk_cons (tree : Tree) (loc : Location) (step : String) (steps : List String) :
    tree.walk loc (step :: steps) = (tree.enter loc step).bind fun loc => tree.walk loc steps := rfl

theorem walk_append (tree : Tree) (loc : Location) (steps more : List String) :
    tree.walk loc (steps ++ more) = (tree.walk loc steps).bind fun loc => tree.walk loc more :=
  List.foldlM_append

theorem walk_ok_cons {step : String} {steps : List String}
    (h : tree.walk loc (step :: steps) = .ok other) :
    tree.enter loc step = .ok (next loc step) ∧ tree.walk (next loc step) steps = .ok other := by
  rw [walk_cons] at h
  cases henter : tree.enter loc step with
  | error e =>
    rw [henter] at h
    cases h
  | ok mid =>
    rw [henter] at h
    obtain ⟨-, rfl, -⟩ := enter_ok henter
    exact ⟨rfl, h⟩

theorem walk_eq_foldl {steps : List String} (h : tree.walk loc steps = .ok other) :
    other = steps.foldl next loc := by
  induction steps generalizing loc with
  | nil => exact (Except.ok.inj h).symm
  | cons step steps ih => exact ih (walk_ok_cons h).2

theorem place_of_route {route : Route} (h : tree.route path = .ok route) :
    route.steps.foldl next route.start = tree.place path := by
  unfold Tree.route at h
  split at h
  · cases h
  · split at h
    · cases h
    · split at h
      · cases h
      · cases h
        rfl

/-- What a path leads to is at its place. -/
theorem locate_eq_place (h : tree.locate path = .ok loc) : loc = tree.place path := by
  unfold locate at h
  split at h
  · cases h
  · next route hroute =>
    split at h
    · cases h
    · next found hwalk =>
      split at h
      · cases h
      · cases h
        rw [walk_eq_foldl hwalk, place_of_route hroute]

/-- The last step of a route is a name in a directory. -/
structure EndsIn (tree : Tree) (route : Route) (dir : Location) (name : String) : Prop where
  walk : tree.walk route.start route.steps.dropLast = .ok dir
  directory : tree.isDirectory dir
  steps : route.steps.dropLast ++ [name] = route.steps
  plain : name ≠ "." ∧ name ≠ ".."

theorem endsIn_of_parentOf {route : Route} {dir : Location} {name : String}
    (h : tree.parentOf route = .ok (dir, .name name)) : tree.EndsIn route dir name := by
  unfold parentOf at h
  split at h
  · cases h
  · next step hlast =>
    split at h
    · cases h
    · next found hwalk =>
      split at h
      · cases h
      · next hdir =>
        split at h
        · cases h
        · next hplain =>
          cases h
          obtain ⟨steps, hsteps⟩ := List.getLast?_eq_some_iff.mp hlast
          exact ⟨hwalk, by simpa using hdir, by simp [hsteps], not_or.mp hplain⟩

theorem EndsIn.next_eq {route : Route} {dir : Location} {name : String}
    (h : tree.EndsIn route dir name) : next dir name = dir ++ [name] := by
  simp [next, h.plain]

theorem EndsIn.eq_place {route : Route} {dir : Location} {name : String}
    (h : tree.EndsIn route dir name) (hroute : tree.route path = .ok route) :
    dir ++ [name] = tree.place path := by
  rw [← place_of_route hroute, ← h.steps, List.foldl_append, ← walk_eq_foldl h.walk, ← h.next_eq]
  rfl

theorem exists_of_locateFile (h : tree.locateFile path = .ok loc) :
    ∃ route dir name, tree.route path = .ok route ∧ tree.EndsIn route dir name ∧
      name.utf8ByteSize ≤ maxName ∧ route.endsWithSlash = false ∧ loc = dir ++ [name] ∧
      ¬tree.isDirectory loc := by
  unfold locateFile at h
  split at h
  · cases h
  · next route hroute =>
    split at h
    · cases h
    · cases h
    · next dir name hparent =>
      split at h
      · cases h
      · next hname =>
        split at h
        · cases h
        · next hfree =>
          cases h
          simp only [Bool.or_eq_true, not_or, Bool.not_eq_true] at hfree
          exact ⟨route, dir, name, hroute, endsIn_of_parentOf hparent, Nat.not_lt.mp hname, hfree.1,
            rfl, by simp [hfree.2]⟩

/-- A file is written at the place of its path, where no directory is. -/
theorem locateFile_eq_place (h : tree.locateFile path = .ok loc) :
    loc = tree.place path ∧ loc ≠ [] ∧ ¬tree.isDirectory loc := by
  obtain ⟨route, dir, name, hroute, hends, -, -, rfl, hfree⟩ := exists_of_locateFile h
  exact ⟨hends.eq_place hroute, by simp, hfree⟩

/-! ## What an operation leaves as it was -/

/-- Directories stay directories, and no file appears, changes or goes away but those that are
touched. -/
structure Keeps (touched : Location → Prop) (before after : Tree) : Prop where
  workDir : after.workDir = before.workDir
  directories : ∀ loc, before.isDirectory loc → after.isDirectory loc
  files : ∀ loc, ¬touched loc → ∀ content,
    after.get? loc = some (.file content) ↔ before.get? loc = some (.file content)

namespace Keeps

variable {touched more : Location → Prop}

theorem refl (touched : Location → Prop) (tree : Tree) : Keeps touched tree tree :=
  ⟨rfl, fun _ h => h, fun _ _ _ => Iff.rfl⟩

theorem trans {last : Tree} (h : Keeps touched before after) (h' : Keeps touched after last) :
    Keeps touched before last where
  workDir := h'.workDir.trans h.workDir
  directories loc hdir := h'.directories loc (h.directories loc hdir)
  files loc hloc content := (h'.files loc hloc content).trans (h.files loc hloc content)

theorem mono (h : Keeps touched before after) (hmore : ∀ loc, touched loc → more loc) :
    Keeps more before after :=
  ⟨h.workDir, h.directories, fun loc hloc => h.files loc fun htouched => hloc (hmore loc htouched)⟩

theorem place_eq (h : Keeps touched before after) (path : String) :
    after.place path = before.place path := by
  rw [place, place, h.workDir]

theorem route_eq (h : Keeps touched before after) (path : String) :
    after.route path = before.route path := by
  rw [route, route, h.workDir]

theorem walk (h : Keeps touched before after) {steps : List String}
    (hwalk : before.walk loc steps = .ok other) (hthere : (after.get? other).isSome) :
    after.walk loc steps = .ok other := by
  induction steps generalizing loc with
  | nil => exact hwalk
  | cons step steps ih =>
    obtain ⟨henter, hrest⟩ := walk_ok_cons hwalk
    obtain ⟨hdir, -, hstep⟩ := enter_ok henter
    have hmid : (after.get? (next loc step)).isSome := by
      cases steps with
      | nil =>
        obtain rfl := Except.ok.inj hrest
        exact hthere
      | cons second steps =>
        have hdir := h.directories _ (enter_ok (walk_ok_cons hrest).1).1
        rw [isDirectory_iff.mp hdir]
        rfl
    have hentered : after.enter loc step = .ok (next loc step) := by
      apply enter_eq (h.directories loc hdir)
      exact hstep.imp_right fun hstep => hstep.imp_right fun hname => ⟨hname.1, hmid⟩
    rw [walk_cons, hentered]
    exact ih hrest

/-- A path goes on to lead where it led, as long as something is there. -/
theorem locate (h : Keeps touched before after) (hlocate : before.locate path = .ok loc)
    (hthere : (after.get? loc).isSome) : after.locate path = .ok loc := by
  unfold Tree.locate at hlocate ⊢
  rw [h.route_eq]
  split at hlocate
  · cases hlocate
  · next route hroute =>
    split at hlocate
    · cases hlocate
    · next found hwalk =>
      split at hlocate
      · cases hlocate
      · next hslash =>
        cases hlocate
        rw [h.walk hwalk hthere]
        apply if_neg
        intro hnone
        simp only [Bool.and_eq_true, Bool.not_eq_true'] at hslash hnone
        have hdir : before.isDirectory loc := by simpa [hnone.1] using hslash
        rw [h.directories loc hdir] at hnone
        exact absurd hnone.2 (by decide)

theorem locate_of_endsIn (h : Keeps touched before after) {route : Route} {dir : Location}
    {name : String} (hroute : before.route path = .ok route) (hends : before.EndsIn route dir name)
    (hname : name.utf8ByteSize ≤ maxName) (hslash : route.endsWithSlash = false)
    (hthere : (after.get? (before.place path)).isSome) :
    after.locate path = .ok (before.place path) := by
  have hdir : after.isDirectory dir := h.directories dir hends.directory
  have hwalk : after.walk route.start route.steps.dropLast = .ok dir := by
    apply h.walk hends.walk
    rw [isDirectory_iff.mp hdir]
    rfl
  rw [← hends.eq_place hroute, ← hends.next_eq] at hthere ⊢
  have hentered : after.enter dir name = .ok (next dir name) :=
    enter_eq hdir (.inr (.inr ⟨hname, hthere⟩))
  have hwhole : after.walk route.start route.steps = .ok (next dir name) := by
    rw [← hends.steps, walk_append, hwalk]
    show after.walk dir [name] = _
    rw [walk_cons, hentered]
    rfl
  unfold Tree.locate
  rw [h.route_eq, hroute]
  simp only [hwhole, hslash, Bool.false_and, Bool.false_eq_true, if_false]

end Keeps

/-! ## Operations -/

theorem keeps_put_file (content : ByteArray) (hfree : ¬tree.isDirectory loc) :
    Keeps (· = loc) tree (tree.put loc (.file content)) where
  workDir := rfl
  directories other hdir := by
    have hother : other ≠ loc := fun h => hfree (h ▸ hdir)
    rw [isDirectory_iff, get?_put_of_ne _ _ hother]
    exact isDirectory_iff.mp hdir
  files other hother old := by rw [get?_put_of_ne _ _ hother]

theorem keeps_put_directory (hfree : tree.get? loc = none) :
    Keeps (fun _ => False) tree (tree.put loc .directory) := by
  have hne : loc ≠ [] := by
    rintro rfl
    simp at hfree
  constructor
  · rfl
  · intro other hdir
    have hother : other ≠ loc := by
      rintro rfl
      simp [isDirectory, hfree] at hdir
    rw [isDirectory_iff, get?_put_of_ne _ _ hother]
    exact isDirectory_iff.mp hdir
  · intro other _ content
    by_cases hother : other = loc
    · simp [hother, get?_put _ _ hne, hfree]
    · rw [get?_put_of_ne _ _ hother]

theorem keeps_erase (hfree : ¬tree.isDirectory loc) : Keeps (· = loc) tree (tree.erase loc) where
  workDir := rfl
  directories other hdir := by
    have hother : other ≠ loc := fun h => hfree (h ▸ hdir)
    rw [isDirectory_iff, get?_erase_of_ne _ hother]
    exact isDirectory_iff.mp hdir
  files other hother old := by rw [get?_erase_of_ne _ hother]

theorem keeps_makeDirectory (h : tree.makeDirectory path = .ok after) :
    Keeps (fun _ => False) tree after := by
  unfold makeDirectory at h
  split at h
  · cases h
  · cases h
  · next dir name _ =>
    split at h
    · cases h
    · split at h
      · cases h
      · next hfree =>
        cases h
        exact keeps_put_directory (by simpa using hfree)

theorem writeFile_ok {content : ByteArray} (h : tree.writeFile path content = .ok after) :
    Keeps (· = tree.place path) tree after ∧
      after.get? (tree.place path) = some (.file content) := by
  unfold writeFile at h
  cases hlocate : tree.locateFile path with
  | error e =>
    rw [hlocate] at h
    cases h
  | ok loc =>
    rw [hlocate] at h
    cases h
    obtain ⟨hplace, hne, hfree⟩ := locateFile_eq_place hlocate
    rw [← hplace]
    exact ⟨keeps_put_file content hfree, get?_put _ _ hne⟩

theorem keeps_removeFile (h : tree.removeFile path = .ok after) :
    Keeps (· = tree.place path) tree after := by
  unfold removeFile at h
  split at h
  · cases h
  · next loc hlocate =>
    split at h
    · cases h
    · next hfree =>
      cases h
      rw [← locate_eq_place hlocate]
      exact keeps_erase hfree

theorem readBytes_ok {content : ByteArray} (h : tree.readBytes path = .ok content) :
    tree.locate path = .ok (tree.place path) ∧
      tree.get? (tree.place path) = some (.file content) := by
  unfold readBytes at h
  split at h
  · cases h
  · next loc hlocate =>
    obtain rfl := locate_eq_place hlocate
    split at h
    · next old hfile =>
      cases h
      exact ⟨hlocate, hfile⟩
    · cases h
    · cases h

theorem exists_of_renameFile {source target : String}
    (h : before.renameFile source target = .ok after) :
    ∃ content route dir name, before.readBytes source = .ok content ∧
      before.route target = .ok route ∧ before.EndsIn route dir name ∧
      name.utf8ByteSize ≤ maxName ∧ route.endsWithSlash = false ∧
      ¬before.isDirectory (before.place target) ∧
      after = (before.erase (before.place source)).put (before.place target) (.file content) := by
  unfold renameFile at h
  simp only [bind, Except.bind] at h
  split at h
  · cases h
  · next loc hlocate =>
    split at h
    · cases h
    · next content hread =>
      split at h
      · cases h
      · next route hroute =>
        split at h
        · cases h
        · next last hparent =>
          obtain ⟨dir, name | _⟩ := last
          · have hends := endsIn_of_parentOf hparent
            simp only [hends.eq_place hroute, locate_eq_place hlocate] at h
            split at h
            · cases h
            · next hname =>
              split at h
              · cases h
              · next hslash =>
                split at h
                · cases h
                · next hfree =>
                  cases h
                  exact ⟨content, route, dir, name, hread, hroute, hends, Nat.not_lt.mp hname,
                    by simpa using hslash, hfree, rfl⟩
          · cases h

theorem renameFile_ok {source target : String} (h : before.renameFile source target = .ok after) :
    Keeps (fun loc => loc = before.place source ∨ loc = before.place target) before after ∧
      after.locate target = .ok (before.place target) ∧
      ∃ content, before.readBytes source = .ok content ∧
        after.get? (before.place target) = some (.file content) := by
  obtain ⟨content, route, dir, name, hread, hroute, hends, hname, hslash, hfree, rfl⟩ :=
    exists_of_renameFile h
  have hsource : ¬before.isDirectory (before.place source) := by
    simp [isDirectory, (readBytes_ok hread).2]
  have herased : Keeps (fun loc => loc = before.place source ∨ loc = before.place target) before
      (before.erase (before.place source)) := (keeps_erase hsource).mono fun _ => .inl
  have hput : Keeps (· = before.place target) (before.erase (before.place source)) _ :=
    keeps_put_file content (mt isDirectory_of_erase hfree)
  have hkeeps := herased.trans (hput.mono fun _ => .inr)
  have hthere := get?_put (before.erase (before.place source)) (.file content)
    (show before.place target ≠ [] by simp [← hends.eq_place hroute])
  refine ⟨hkeeps, ?_, content, hread, hthere⟩
  apply hkeeps.locate_of_endsIn hroute hends hname hslash
  rw [hthere]
  rfl

end RowTypes.Storage.Tree
