import Mathlib.Data.List.Infix
import RowTypes.Proofs.Storage.Spelling

/-!
Trees that agree on some locations. An operation looks at nothing but what lies on the way of its path,
so on two trees that agree there it comes to the same result, and the trees that it leaves agree again.

What is proved:
  1. `Agree.walk`, `Agree.locate`, `Agree.parentOf`: a path leads to the same location.
  2. `Agree.readText`, `Agree.writeFile`, `Agree.removeFile`, `Agree.renameFile`, `Agree.makeDirectory`:
     one operation.
  3. `Agree.writeAtomic`: a file that is written by way of its sibling.
-/

namespace RowTypes

/-- Two computations end with values that are related, or with the same error. -/
inductive Alike {ε α β : Type} (R : α → β → Prop) : Except ε α → Except ε β → Prop where
  | ok {a : α} {b : β} (h : R a b) : Alike R (.ok a) (.ok b)
  | error (e : ε) : Alike R (.error e) (.error e)

namespace Alike

variable {ε α β : Type}

theorem refl (result : Except ε α) : Alike Eq result result := by
  cases result with
  | ok a => exact .ok rfl
  | error e => exact .error e

theorem eq {result result' : Except ε α} (h : Alike Eq result result') : result = result' := by
  cases h with
  | ok h => rw [h]
  | error e => rfl

end Alike

namespace Storage.Tree

variable {near : Location → Prop} {left right : Tree} {loc : Location} {path : String}
  {content : ByteArray}

/-- Two trees have one working directory and the same entries at some locations. -/
structure Agree (near : Location → Prop) (left right : Tree) : Prop where
  workDir : left.workDir = right.workDir
  get? : ∀ loc, near loc → left.get? loc = right.get? loc

/-- All that lies on the way of a path is near. -/
def Covers (near : Location → Prop) (tree : Tree) (path : String) : Prop :=
  ∀ loc, Passes tree path loc → near loc

theorem covers_iff : Covers near left path ↔
    ∀ front ∈ (stepsOf path.toList).inits, near (front.foldl next (originOf left path)) := by
  simp only [Covers, Passes, List.mem_inits]
  constructor
  · exact fun h front hfront => h _ ⟨front, hfront, rfl⟩
  · rintro h _ ⟨front, hfront, rfl⟩
    exact h front hfront

instance [DecidablePred near] : Decidable (Covers near left path) :=
  decidable_of_iff _ covers_iff.symm

theorem passes_congr (h : left.workDir = right.workDir) :
    Passes left path loc ↔ Passes right path loc := by
  simp only [Passes, originOf, h]

theorem covers_congr (h : left.workDir = right.workDir) :
    Covers near left path ↔ Covers near right path := by
  simp only [Covers, passes_congr h]

theorem place_congr (h : left.workDir = right.workDir) : left.place path = right.place path := by
  simp only [place, h]

theorem route_ok {route : Route} (h : left.route path = .ok route) :
    route.start = originOf left path ∧ route.steps = stepsOf path.toList := by
  unfold Tree.route at h
  split at h
  · cases h
  · split at h
    · cases h
    · split at h
      · cases h
      · cases h
        exact ⟨rfl, rfl⟩

theorem Covers.of_route {route : Route} (h : Covers near left path)
    (hroute : left.route path = .ok route) :
    ∀ front, front <+: route.steps → near (front.foldl next route.start) := by
  obtain ⟨hstart, hsteps⟩ := route_ok hroute
  intro front hfront
  rw [hsteps] at hfront
  rw [hstart]
  exact h _ ⟨front, hfront, rfl⟩

theorem near_of_parentOf {route : Route} {dir : Location} {name : String}
    (hnear : ∀ front, front <+: route.steps → near (front.foldl next route.start))
    (hparent : left.parentOf route = .ok (dir, .name name)) : near (dir ++ [name]) := by
  have hends := endsIn_of_parentOf hparent
  have hplace : dir ++ [name] = route.steps.foldl next route.start := by
    rw [← hends.steps, List.foldl_append, ← walk_eq_foldl hends.walk, ← hends.next_eq]
    rfl
  rw [hplace]
  exact hnear _ (List.prefix_refl _)

namespace Agree

theorem put (h : Agree near left right) (loc : Location) (node : Node) :
    Agree near (left.put loc node) (right.put loc node) where
  workDir := h.workDir
  get? other hother := by
    by_cases hroot : other = []
    · simp [hroot]
    · by_cases hsame : other = loc
      · subst hsame
        rw [get?_put _ _ hroot, get?_put _ _ hroot]
      · rw [get?_put_of_ne _ _ hsame, get?_put_of_ne _ _ hsame, h.get? other hother]

theorem erase (h : Agree near left right) (loc : Location) :
    Agree near (left.erase loc) (right.erase loc) where
  workDir := h.workDir
  get? other hother := by
    by_cases hroot : other = []
    · simp [hroot]
    · by_cases hsame : other = loc
      · subst hsame
        rw [get?_erase _ hroot, get?_erase _ hroot]
      · rw [get?_erase_of_ne _ hsame, get?_erase_of_ne _ hsame, h.get? other hother]

variable (h : Agree near left right)
include h

theorem isDirectory (hloc : near loc) : left.isDirectory loc = right.isDirectory loc := by
  rw [Tree.isDirectory, Tree.isDirectory, h.get? loc hloc]

theorem route (path : String) : left.route path = right.route path := by
  rw [Tree.route, Tree.route, h.workDir]

/-! ## Ways -/

theorem enter {step : String} (hloc : near loc) (hnext : near (next loc step)) :
    left.enter loc step = right.enter loc step := by
  unfold Tree.enter
  rw [h.isDirectory hloc]
  by_cases hhere : step = "."
  · simp [hhere]
  · by_cases habove : step = ".."
    · simp [habove]
    · rw [next, if_neg hhere, if_neg habove] at hnext
      rw [h.get? _ hnext]

theorem walk {steps : List String} (hnear : ∀ front, front <+: steps → near (front.foldl next loc)) :
    left.walk loc steps = right.walk loc steps := by
  induction steps generalizing loc with
  | nil => rfl
  | cons step steps ih =>
    have henter : left.enter loc step = right.enter loc step :=
      h.enter (hnear [] List.nil_prefix) (hnear [step] ⟨steps, rfl⟩)
    rw [walk_cons, walk_cons, henter]
    cases hentered : right.enter loc step with
    | error e => rfl
    | ok mid =>
      obtain ⟨-, rfl, -⟩ := enter_ok hentered
      exact ih fun front hfront => hnear (step :: front) (List.cons_prefix_cons.mpr ⟨rfl, hfront⟩)

theorem parentOf {route : Route}
    (hnear : ∀ front, front <+: route.steps → near (front.foldl next route.start)) :
    left.parentOf route = right.parentOf route := by
  have hwalk : left.walk route.start route.steps.dropLast =
      right.walk route.start route.steps.dropLast :=
    h.walk fun front hfront => hnear front (hfront.trans (List.dropLast_prefix _))
  unfold Tree.parentOf
  split
  · rfl
  · rw [hwalk]
    split
    · rfl
    · next dir hdir =>
      have hdirNear : near dir := by
        rw [walk_eq_foldl hdir]
        exact hnear _ (List.dropLast_prefix _)
      rw [h.isDirectory hdirNear]

variable (hcovers : Covers near left path)
include hcovers

theorem locate : left.locate path = right.locate path := by
  unfold Tree.locate
  rw [h.route path]
  split
  · rfl
  · next route hroute =>
    have hnear := hcovers.of_route (h.route path ▸ hroute)
    rw [h.walk hnear]
    split
    · rfl
    · next loc hwalk =>
      have hloc : near loc := by
        rw [walk_eq_foldl hwalk]
        exact hnear _ (List.prefix_refl _)
      rw [h.isDirectory hloc]

theorem near_of_locate (hlocate : right.locate path = .ok loc) : near loc := by
  rw [locate_eq_place hlocate, ← place_congr h.workDir]
  exact hcovers _ (passes_place _ _)

theorem leadsToDirectory : left.leadsToDirectory path = right.leadsToDirectory path := by
  unfold Tree.leadsToDirectory
  rw [h.locate hcovers]
  split
  · next loc hlocate => exact h.isDirectory (h.near_of_locate hcovers hlocate)
  · rfl

/-! ## Reading -/

theorem readBytes : left.readBytes path = right.readBytes path := by
  unfold Tree.readBytes
  rw [h.locate hcovers]
  split
  · rfl
  · next loc hlocate => rw [h.get? loc (h.near_of_locate hcovers hlocate)]

theorem readText : left.readText path = right.readText path := by
  rw [Tree.readText, Tree.readText, h.readBytes hcovers]

theorem readExisting : readExisting left path = readExisting right path := by
  rw [Storage.readExisting, Storage.readExisting, h.readText hcovers]

/-! ## One operation -/

theorem makeDirectory : Alike (Agree near) (left.makeDirectory path) (right.makeDirectory path) := by
  unfold Tree.makeDirectory
  rw [h.route path]
  cases hroute : right.route path with
  | error e => exact .error e
  | ok route =>
    have hnear := hcovers.of_route (h.route path ▸ hroute)
    simp only [Except.bind]
    rw [h.parentOf hnear]
    split
    · exact .error _
    · exact .error _
    · next dir name hparent =>
      rw [h.get? _ (near_of_parentOf hnear hparent)]
      split
      · exact .error _
      · split
        · exact .error _
        · exact .ok (h.put _ _)

theorem locateFile : left.locateFile path = right.locateFile path := by
  unfold Tree.locateFile
  rw [h.route path]
  split
  · rfl
  · next route hroute =>
    have hnear := hcovers.of_route (h.route path ▸ hroute)
    rw [h.parentOf hnear]
    split
    · rfl
    · rfl
    · next dir name hparent => rw [h.isDirectory (near_of_parentOf hnear hparent)]

theorem writeFile (content : ByteArray) :
    Alike (Agree near) (left.writeFile path content) (right.writeFile path content) := by
  rw [Tree.writeFile, Tree.writeFile, h.locateFile hcovers]
  cases right.locateFile path with
  | error e => exact .error e
  | ok loc => exact .ok (h.put _ _)

theorem removeFile : Alike (Agree near) (left.removeFile path) (right.removeFile path) := by
  unfold Tree.removeFile
  rw [h.locate hcovers]
  split
  · exact .error _
  · next loc hlocate =>
    rw [h.isDirectory (h.near_of_locate hcovers hlocate)]
    split
    · exact .error _
    · exact .ok (h.erase _)

theorem renameFile {target : String} (htarget : Covers near left target) :
    Alike (Agree near) (left.renameFile path target) (right.renameFile path target) := by
  unfold Tree.renameFile
  rw [h.locate hcovers, h.readBytes hcovers, h.route target]
  simp only [bind, Except.bind]
  cases right.locate path with
  | error e => exact .error e
  | ok loc =>
    cases right.readBytes path with
    | error e => exact .error e
    | ok content =>
      cases hroute : right.route target with
      | error e => exact .error e
      | ok route =>
        have hnear := htarget.of_route (h.route target ▸ hroute)
        simp only
        rw [h.parentOf hnear]
        cases hparent : right.parentOf route with
        | error e => exact .error e
        | ok last =>
          obtain ⟨dir, name | _⟩ := last
          · simp only
            rw [h.isDirectory (near_of_parentOf hnear hparent)]
            split
            · exact .error _
            · split
              · exact .error _
              · split
                · exact .error _
                · exact .ok ((h.erase _).put _ _)
          · exact .error _

end Agree

/-! ## Writing by way of a sibling -/

/-- Two operations leave trees that agree, and come to the same result. -/
def SameEnd {α : Type} (near : Location → Prop) (left right : Tree × α) : Prop :=
  Agree near left.1 right.1 ∧ left.2 = right.2

namespace Agree

variable (h : Agree near left right)
include h

theorem attempt (hcovers : Covers near left path) :
    SameEnd near (attempt left path) (attempt right path) := by
  have hmade := h.makeDirectory hcovers
  have hleads := h.leadsToDirectory hcovers
  unfold Storage.attempt
  generalize left.makeDirectory path = made, right.makeDirectory path = made' at hmade
  cases hmade with
  | ok hmade => exact ⟨hmade, rfl⟩
  | error e => exact ⟨h, by simp only [hleads]⟩

theorem makeDirectories {fuel : Nat} {p : Path} (hp : p.Spelled)
    (hcovers : Covers near left p.toString) :
    SameEnd near (makeDirectories left fuel p) (makeDirectories right fuel p) := by
  induction fuel generalizing p with
  | zero => exact ⟨h, rfl⟩
  | succ fuel ih =>
    by_cases hne : p.toString = ""
    · simp only [Storage.makeDirectories, hne]
      exact ⟨h, rfl⟩
    rw [makeDirectories_succ left fuel hne, makeDirectories_succ right fuel hne]
    -- Both trees agree on why a directory cannot be made, so on both the parent is made first or on none.
    have htried := h.attempt hcovers
    have hmade := h.makeDirectory hcovers
    generalize left.makeDirectory p.toString = made, right.makeDirectory p.toString = made' at hmade
    cases hmade with
    | ok _ => exact htried
    | error e =>
      cases e with
      | notFound =>
        cases hparent : p.parent? with
        | none => exact ⟨h, rfl⟩
        | some q =>
          obtain ⟨habove, hresult⟩ := ih (hp.parent hparent)
            fun loc hpass => hcovers loc (hpass.of_parent hp hparent)
          have hkeeps := keeps_makeDirectories left fuel q
          dsimp only
          generalize Storage.makeDirectories left fuel q = above,
            Storage.makeDirectories right fuel q = above' at habove hresult hkeeps
          obtain ⟨tree, result⟩ := above
          obtain ⟨tree', result'⟩ := above'
          obtain rfl : result = result' := hresult
          cases result with
          | error e => exact ⟨habove, rfl⟩
          | ok u => exact habove.attempt ((covers_congr hkeeps.workDir.symm).mp hcovers)
      | _ => exact htried

theorem makeParents {p : Path} (hp : p.Spelled) (hcovers : Covers near left p.toString) :
    SameEnd near (makeParents left p) (makeParents right p) := by
  unfold Storage.makeParents
  split
  · next q hparent =>
    exact h.makeDirectories (hp.parent hparent)
      fun loc hpass => hcovers loc (hpass.of_parent hp hparent)
  · exact ⟨h, rfl⟩

theorem putInPlace {name : String} (hcovers : Covers near left path)
    (hbeside : Covers near left (temporaryPath (Path.ofString path) name)) (content : ByteArray) :
    SameEnd near (putInPlace left path name content) (putInPlace right path name content) := by
  unfold Storage.putInPlace
  dsimp only
  have hwritten := h.writeFile hbeside content
  generalize hleft : left.writeFile (temporaryPath (Path.ofString path) name) content = written,
    right.writeFile (temporaryPath (Path.ofString path) name) content = written' at hwritten
  cases hwritten with
  | error e => exact ⟨h, rfl⟩
  | @ok written written' hwritten =>
    rw [covers_congr (writeFile_ok hleft).1.workDir.symm] at hcovers hbeside
    dsimp only
    have hmoved := hwritten.renameFile hbeside hcovers
    have hcleared := hwritten.removeFile hbeside
    generalize written.renameFile _ path = moved, written'.renameFile _ path = moved' at hmoved
    cases hmoved with
    | ok hmoved => exact ⟨hmoved, rfl⟩
    | error e =>
      dsimp only
      generalize written.removeFile _ = cleared, written'.removeFile _ = cleared' at hcleared
      cases hcleared with
      | ok hcleared => exact ⟨hcleared, rfl⟩
      | error e => exact ⟨hwritten, rfl⟩

theorem writeAtomic (hcovers : Covers near left path)
    (hsibling : ∀ loc ∈ siblingPlace? left path, near loc) (content : ByteArray) :
    SameEnd near (writeAtomic left path content) (writeAtomic right path content) := by
  have hp := spelled_ofString path
  have hpath := toString_ofString path
  have hkeeps := keeps_makeParents left (Path.ofString path)
  obtain ⟨hmade, hresult⟩ := h.makeParents hp (by rwa [hpath])
  rw [writeAtomic_eq, writeAtomic_eq]
  generalize Storage.makeParents left (Path.ofString path) = made,
    Storage.makeParents right (Path.ofString path) = made' at hmade hresult hkeeps
  obtain ⟨tree, result⟩ := made
  obtain ⟨tree', result'⟩ := made'
  simp only at hmade hresult hkeeps
  subst hresult
  cases result with
  | error e => exact ⟨hmade, rfl⟩
  | ok u =>
    cases hname : (Path.ofString path).name? with
    | none => exact ⟨hmade, rfl⟩
    | some name =>
      obtain ⟨q, hparent, -⟩ := exists_parent hname
      have hbeside : Covers near left (temporaryPath (Path.ofString path) name) := by
        intro loc hpass
        rcases hpass.of_temporaryPath hp hparent hname with habove | rfl
        · have hway := habove.of_parent hp hparent
          rw [hpath] at hway
          exact hcovers loc hway
        · exact hsibling _ (by simp [siblingPlace?, hname])
      rw [covers_congr hkeeps.workDir.symm] at hcovers hbeside
      exact hmade.putInPlace hcovers hbeside content

end Agree

end Storage.Tree

end RowTypes
