import RowTypes.Proofs.Storage.Agreement
import RowTypes.Proofs.Storage.Soundness

/-!
Making directories. On the way to a directory, those that are there are passed and those that are missing
are made, so what comes of it depends on the files on the way and on the lengths of the names alone.

What is proved:
  1. `Sound.walk_notFound`, `isDirectory_of_walk`: what a way that fails, or that leads to a directory,
     tells.
  2. `paves_makeDirectories`: only directories on the way are new.
  3. `makes_makeDirectories`: whether all of them can be made, and that they are there if so.
-/

namespace RowTypes.Storage

open Storage.Tree

variable {tree after : Tree} {loc other : Location} {path name : String} {steps : List String}
  {route : Route} {p q : Path}

/-! ## Ways -/

/-- A step whose name is too long. -/
def TooLong (step : String) : Prop :=
  maxName < step.utf8ByteSize

instance (step : String) : Decidable (TooLong step) :=
  inferInstanceAs (Decidable (_ < _))

namespace Tree

theorem prefix_foldl_next (h : ".." ∉ steps) (loc : Location) : loc <+: steps.foldl next loc := by
  induction steps generalizing loc with
  | nil => exact List.prefix_refl _
  | cons step steps ih =>
    rw [List.mem_cons, not_or] at h
    refine List.IsPrefix.trans ?_ (ih h.2 _)
    unfold next
    split
    · exact List.prefix_refl _
    · rw [if_neg (Ne.symm h.1)]
      exact List.prefix_append _ _

theorem foldl_next_prefix {front : List String} (h : ".." ∉ steps) (hfront : front <+: steps)
    (loc : Location) : front.foldl next loc <+: steps.foldl next loc := by
  obtain ⟨rest, rfl⟩ := hfront
  rw [List.foldl_append]
  exact prefix_foldl_next (fun hrest => h (List.mem_append_right _ hrest)) _

theorem enter_error {step : String} {e : IoError} (h : tree.enter loc step = .error e) :
    (e = .notDirectory ∧ ¬tree.isDirectory loc) ∨ (e = .nameTooLong ∧ TooLong step) ∨
      (e = .notFound ∧ tree.get? (next loc step) = none) := by
  unfold enter at h
  unfold next
  split at h
  · next hdir =>
    cases h
    exact .inl ⟨rfl, by simpa using hdir⟩
  · split at h
    · cases h
    · next hhere =>
      split at h
      · cases h
      · next habove =>
        rw [if_neg hhere, if_neg habove]
        split at h
        · next hlong =>
          cases h
          exact .inr (.inl ⟨rfl, hlong⟩)
        · split at h
          · cases h
          · next hnone =>
            cases h
            exact .inr (.inr ⟨rfl, by simpa using hnone⟩)

theorem walk_error_append {e : IoError} (h : tree.walk loc steps = .error e) (rest : List String) :
    tree.walk loc (steps ++ rest) = .error e := by
  rw [walk_append, h]
  rfl

theorem walk_concat (h : tree.walk loc steps = .ok other) (step : String) :
    tree.walk loc (steps ++ [step]) = tree.enter other step := by
  rw [walk_append, h]
  change tree.walk other [step] = _
  rw [walk_cons]
  cases tree.enter other step <;> rfl

/-- Nothing is where a way ends that fails because something is missing. -/
theorem Sound.walk_notFound (h : tree.Sound) (hlevel : ".." ∉ steps)
    (hwalk : tree.walk loc steps = .error .notFound) : tree.get? (steps.foldl next loc) = none := by
  -- By induction on the way: it fails at a step into nothing, and in a sound tree nothing is below that.
  induction steps generalizing loc with
  | nil => cases hwalk
  | cons step steps ih =>
    rw [List.mem_cons, not_or] at hlevel
    rw [walk_cons] at hwalk
    cases henter : tree.enter loc step with
    | ok mid =>
      rw [henter] at hwalk
      obtain ⟨-, rfl, -⟩ := enter_ok henter
      exact ih hlevel.2 hwalk
    | error e =>
      rw [henter] at hwalk
      have hmissing : tree.get? (next loc step) = none := by
        rcases enter_error henter with ⟨rfl, -⟩ | ⟨rfl, -⟩ | ⟨-, hnone⟩
        · cases hwalk
        · cases hwalk
        · exact hnone
      obtain ⟨rest, hrest⟩ := prefix_foldl_next hlevel.2 (next loc step)
      rw [List.foldl_cons, ← hrest]
      exact h.nothing_below hmissing rest

/-- All that lies on a way to a directory is a directory. -/
theorem isDirectory_of_walk (hwalk : tree.walk loc steps = .ok other) (hdir : tree.isDirectory other) :
    ∀ front, front <+: steps → tree.isDirectory (front.foldl next loc) := by
  induction steps generalizing loc with
  | nil =>
    intro front hfront
    obtain rfl := List.prefix_nil.mp hfront
    obtain rfl := Except.ok.inj hwalk
    exact hdir
  | cons step steps ih =>
    obtain ⟨henter, hrest⟩ := walk_ok_cons hwalk
    intro front hfront
    cases front with
    | nil => exact (enter_ok henter).1
    | cons first front =>
      obtain ⟨rfl, hmore⟩ := List.cons_prefix_cons.mp hfront
      exact ih hrest front hmore

theorem walk_of_directories (hshort : ∀ step ∈ steps, ¬TooLong step)
    (hdirs : ∀ front, front <+: steps → tree.isDirectory (front.foldl next loc)) :
    tree.walk loc steps = .ok (steps.foldl next loc) := by
  induction steps generalizing loc with
  | nil => rfl
  | cons step steps ih =>
    obtain ⟨hstep, hsteps⟩ := List.forall_mem_cons.mp hshort
    have hnext : tree.isDirectory (next loc step) := hdirs [step] ⟨steps, rfl⟩
    have henter : tree.enter loc step = .ok (next loc step) :=
      enter_eq (hdirs [] List.nil_prefix)
        (.inr (.inr ⟨Nat.not_lt.mp hstep, isSome_of_isDirectory hnext⟩))
    rw [walk_cons, henter]
    exact ih hsteps fun front hfront => hdirs (step :: front) (List.cons_prefix_cons.mpr ⟨rfl, hfront⟩)

theorem not_tooLong_of_walk (hwalk : tree.walk loc steps = .ok other) :
    ∀ step ∈ steps, ¬TooLong step := by
  induction steps generalizing loc with
  | nil => simp
  | cons step steps ih =>
    obtain ⟨henter, hrest⟩ := walk_ok_cons hwalk
    refine List.forall_mem_cons.mpr ⟨?_, ih hrest⟩
    rcases (enter_ok henter).2.2 with rfl | rfl | ⟨hname, -⟩
    · decide
    · decide
    · exact Nat.not_lt.mpr hname

theorem exists_tooLong_of_walk (hwalk : tree.walk loc steps = .error .nameTooLong) :
    ∃ step ∈ steps, TooLong step := by
  induction steps generalizing loc with
  | nil => cases hwalk
  | cons step steps ih =>
    rw [walk_cons] at hwalk
    cases henter : tree.enter loc step with
    | ok mid =>
      rw [henter] at hwalk
      obtain ⟨long, hmem, hlong⟩ := ih hwalk
      exact ⟨long, List.mem_cons_of_mem _ hmem, hlong⟩
    | error e =>
      rw [henter] at hwalk
      cases hwalk
      rcases enter_error henter with ⟨he, -⟩ | ⟨-, hlong⟩ | ⟨he, -⟩
      · cases he
      · exact ⟨step, List.mem_cons_self, hlong⟩
      · cases he

theorem leadsToDirectory_eq (hroute : tree.route path = .ok route) :
    tree.leadsToDirectory path =
      match tree.walk route.start route.steps with
      | .ok found => tree.isDirectory found
      | .error _ => false := by
  unfold leadsToDirectory locate
  rw [hroute]
  dsimp only
  cases tree.walk route.start route.steps with
  | error e => rfl
  | ok found =>
    dsimp only
    by_cases hdir : tree.isDirectory found
    · simp [hdir]
    · by_cases hslash : route.endsWithSlash <;> simp [hdir, hslash]

/-- What comes of making directories along some steps. -/
def makes (tree : Tree) (loc : Location) (steps : List String) : Except IoError Unit :=
  match tree.walk loc steps with
  | .ok found => if tree.isDirectory found then .ok () else .error .alreadyExists
  | .error .notFound => if ∃ step ∈ steps, TooLong step then .error .nameTooLong else .ok ()
  | .error e => .error e

theorem makes_concat {dir : Location} (hwalk : tree.walk loc steps = .ok dir)
    (hdir : tree.isDirectory dir) (hplain : name ≠ "." ∧ name ≠ "..") :
    tree.makes loc (steps ++ [name]) =
      if TooLong name then .error .nameTooLong
      else match tree.get? (dir ++ [name]) with
        | some (.file _) => .error .alreadyExists
        | _ => .ok () := by
  unfold makes
  rw [walk_concat hwalk]
  simp only [enter, hdir, Bool.not_true, Bool.false_eq_true, if_false, hplain]
  by_cases hlong : TooLong name
  · rw [if_pos hlong, if_pos (show maxName < name.utf8ByteSize from hlong)]
  · rw [if_neg hlong, if_neg (show ¬maxName < name.utf8ByteSize from hlong)]
    have hshort : ¬∃ step ∈ steps ++ [name], TooLong step := by
      rintro ⟨step, hstep, hstepLong⟩
      rcases List.mem_append.mp hstep with hstep | hstep
      · exact not_tooLong_of_walk hwalk step hstep hstepLong
      · exact hlong (List.mem_singleton.mp hstep ▸ hstepLong)
    cases hentry : tree.get? (dir ++ [name]) with
    | none => exact if_neg hshort
    | some node => cases node <;> simp [isDirectory, hentry]

end Tree

theorem makeDirectory_of_parentOf (hroute : tree.route path = .ok route) :
    tree.makeDirectory path =
      match tree.parentOf route with
      | .error e => .error e
      | .ok (_, .special) => .error .alreadyExists
      | .ok (dir, .name name) =>
        if TooLong name then .error .nameTooLong
        else if (tree.get? (dir ++ [name])).isSome then .error .alreadyExists
        else .ok (tree.put (dir ++ [name]) .directory) := by
  unfold makeDirectory
  rw [hroute]
  rfl

theorem parentOf_concat {front : List String} {last : String} (h : route.steps = front ++ [last]) :
    tree.parentOf route =
      match tree.walk route.start front with
      | .error e => .error e
      | .ok dir =>
        if !tree.isDirectory dir then .error .notDirectory
        else if last = "." ∨ last = ".." then .ok (dir, .special)
        else .ok (dir, .name last) := by
  have hlast : route.steps.getLast? = some last := by rw [h, List.getLast?_concat]
  have hfront : route.steps.dropLast = front := by rw [h, List.dropLast_concat]
  unfold parentOf
  cases hwalk : tree.walk route.start front with
  | error e => simp only [hlast, hfront, hwalk]
  | ok dir => simp only [hlast, hfront, hwalk]

/-- A try comes to what can be made of the steps of its path, and the path leads to a directory then if
the try does not fail. -/
structure Tried (tree : Tree) (path : String) (route : Route) : Prop where
  result : (attempt tree path).2 = tree.makes route.start route.steps
  leads : (attempt tree path).2 = .ok () → (attempt tree path).1.leadsToDirectory path

theorem tried_of_walk (hroute : tree.route path = .ok route)
    (hwalk : tree.walk route.start route.steps = .ok loc)
    (hmake : tree.makeDirectory path = .error .alreadyExists) : Tried tree path route := by
  have hleads : tree.leadsToDirectory path = tree.isDirectory loc := by
    rw [leadsToDirectory_eq hroute, hwalk]
  have hattempt := attempt_error hmake
  constructor
  · rw [hattempt, hleads, makes, hwalk]
  · rw [hattempt]
    intro hok
    by_contra hnot
    simp [hnot] at hok

theorem tried_of_error {e : IoError} (hroute : tree.route path = .ok route)
    (hwalk : tree.walk route.start route.steps = .error e) (he : e ≠ .notFound)
    (hmake : tree.makeDirectory path = .error e) : Tried tree path route := by
  have hnot : tree.leadsToDirectory path = false := by rw [leadsToDirectory_eq hroute, hwalk]
  have hmakes : tree.makes route.start route.steps = .error e := by
    unfold makes
    rw [hwalk]
    cases e with
    | notFound => exact absurd rfl he
    | _ => rfl
  have hattempt : attempt tree path = (tree, .error e) := by
    rw [attempt_error hmake, hnot]
    rfl
  constructor
  · rw [hattempt, hmakes]
  · rw [hattempt]
    exact nofun

theorem tried_of_none {front : List String} {dir : Location} (hroute : tree.route path = .ok route)
    (hsteps : route.steps = front ++ [name]) (hwalk : tree.walk route.start front = .ok dir)
    (hdir : tree.isDirectory dir) (hplain : name ≠ "." ∧ name ≠ "..") (hshort : ¬TooLong name)
    (hnone : tree.get? (dir ++ [name]) = none)
    (hmake : tree.makeDirectory path = .ok (tree.put (dir ++ [name]) .directory)) :
    Tried tree path route := by
  have hattempt : attempt tree path = (tree.put (dir ++ [name]) .directory, .ok ()) := by
    rw [attempt, hmake]
  have hkeeps := keeps_put_directory hnone
  have hdir' := hkeeps.directories dir hdir
  have hmade := isDirectory_iff.mpr (get?_put tree .directory (show dir ++ [name] ≠ [] by simp))
  constructor
  · rw [hattempt, hsteps, makes_concat hwalk hdir hplain, if_neg hshort, hnone]
  · intro _
    have henter : (tree.put (dir ++ [name]) .directory).enter dir name = .ok (dir ++ [name]) := by
      have hsize : ¬maxName < name.utf8ByteSize := hshort
      simp [enter, hdir', hplain, hsize]
    rw [hattempt, leadsToDirectory_eq ((hkeeps.route_eq path).trans hroute), hsteps,
      walk_concat (hkeeps.walk hwalk (isSome_of_isDirectory hdir')), henter]
    exact hmade

theorem tried_name {front : List String} {dir : Location} (hroute : tree.route path = .ok route)
    (hsteps : route.steps = front ++ [name]) (hwalk : tree.walk route.start front = .ok dir)
    (hdir : tree.isDirectory dir) (hplain : name ≠ "." ∧ name ≠ "..") : Tried tree path route := by
  have hmake := makeDirectory_of_parentOf hroute
  rw [parentOf_concat hsteps, hwalk] at hmake
  simp only [hdir, hplain, Bool.not_true, Bool.false_eq_true, if_false, or_self] at hmake
  have hend : tree.walk route.start route.steps = tree.enter dir name :=
    hsteps ▸ walk_concat hwalk name
  by_cases hlong : TooLong name
  · have henter : tree.enter dir name = .error .nameTooLong := by
      have hsize : maxName < name.utf8ByteSize := hlong
      simp [enter, hdir, hplain, hsize]
    rw [if_pos hlong] at hmake
    exact tried_of_error hroute (hend.trans henter) (by simp) hmake
  · rw [if_neg hlong] at hmake
    cases hentry : tree.get? (dir ++ [name]) with
    | none =>
      rw [hentry] at hmake
      exact tried_of_none hroute hsteps hwalk hdir hplain hlong hentry hmake
    | some node =>
      have henter : tree.enter dir name = .ok (dir ++ [name]) := by
        have hsize : ¬maxName < name.utf8ByteSize := hlong
        simp [enter, hdir, hplain, hsize, hentry]
      rw [hentry] at hmake
      exact tried_of_walk hroute (hend.trans henter) hmake

/-- A try comes to what can be made, unless a directory on the way is missing. -/
theorem tried_of_reached (hroute : tree.route path = .ok route) (hlevel : ".." ∉ route.steps)
    (hreach : tree.makeDirectory path ≠ .error .notFound) : Tried tree path route := by
  have hmake := makeDirectory_of_parentOf hroute
  rcases List.eq_nil_or_concat route.steps with hnil | ⟨front, last, hsteps⟩
  · have hwalk : tree.walk route.start route.steps = .ok route.start := by rw [hnil]; rfl
    refine tried_of_walk hroute hwalk (hmake.trans ?_)
    simp only [parentOf, hnil, List.getLast?_nil]
  · rw [List.concat_eq_append] at hsteps
    rw [parentOf_concat hsteps] at hmake
    have hlast : last ≠ ".." := by
      rintro rfl
      exact hlevel (by simp [hsteps])
    cases hfront : tree.walk route.start front with
    | error e =>
      rw [hfront] at hmake
      exact tried_of_error hroute (hsteps ▸ walk_error_append hfront [last])
        (fun he => hreach (he ▸ hmake)) hmake
    | ok dir =>
      rw [hfront] at hmake
      have hwalk : tree.walk route.start route.steps = tree.enter dir last :=
        hsteps ▸ walk_concat hfront last
      by_cases hdir : tree.isDirectory dir
      · by_cases hdot : last = "."
        · have henter : tree.enter dir last = .ok dir := by simp [enter, hdir, hdot]
          exact tried_of_walk hroute (hwalk.trans henter) (by simp [hmake, hdir, hdot])
        · exact tried_name hroute hsteps hfront hdir ⟨hdot, hlast⟩
      · have henter : tree.enter dir last = .error .notDirectory := by simp [enter, hdir]
        exact tried_of_error hroute (hwalk.trans henter) (by simp) (by simp [hmake, hdir])

/-! ## Parents -/

/-- The parts of a path end in one that means something, if there are any. -/
def Path.Trimmed (p : Path) : Prop :=
  Path.trimParts p.parts = p.parts

theorem exists_trimParts (parts : List String) :
    ∃ rest, parts = Path.trimParts parts ++ rest ∧ ∀ step ∈ rest.filter (· != ""), step = "." := by
  refine ⟨parts.rtakeWhile fun part => !Path.matters part, List.rdropWhile_append_rtakeWhile.symm, ?_⟩
  intro step hstep
  rw [List.mem_filter] at hstep
  have hdrop := List.mem_rtakeWhile_imp hstep.1
  simpa [Path.matters, bne_iff_ne.mp hstep.2] using hdrop

theorem trimmed_trimParts (start : Start) (parts : List String) :
    Path.Trimmed ⟨start, Path.trimParts parts⟩ :=
  List.rdropWhile_idempotent _ _

theorem Path.Trimmed.parts_eq_nil (h : p.Trimmed) (hsteps : p.steps = []) : p.parts = [] := by
  rcases List.eq_nil_or_concat p.parts with hnil | ⟨front, last, hparts⟩
  · exact hnil
  · rw [List.concat_eq_append] at hparts
    have hmem : last ∈ p.steps :=
      List.mem_filter.mpr ⟨by simp [hparts], matters_of_trimParts (Eq.trans h hparts)⟩
    rw [hsteps] at hmem
    cases hmem

theorem exists_parent_of_steps (h : p.steps ≠ []) : ∃ q, p.parent? = some q := by
  unfold Path.parent?
  split
  · next hnil =>
    refine absurd ?_ h
    rw [Path.steps, ← filter_matters_trimParts, hnil]
    rfl
  · exact ⟨_, rfl⟩

theorem Path.Trimmed.parent (h : p.parent? = some q) : q.Trimmed := by
  obtain ⟨-, -, rfl⟩ | ⟨front, last, -, rfl⟩ := parent?_cases h
  · rfl
  · exact trimmed_trimParts _ _

theorem length_parts_parent (h : p.parent? = some q) (hne : p.steps ≠ []) :
    q.parts.length < p.parts.length := by
  obtain ⟨-, hnil, -⟩ | ⟨front, last, hparts, rfl⟩ := parent?_cases h
  · exact absurd hnil hne
  · have hlength := (prefix_trimParts p.parts).length_le
    rw [hparts, List.length_append, List.length_singleton] at hlength
    exact Nat.lt_of_le_of_lt (prefix_trimParts front).length_le hlength

/-- A way is that of the parent and a step to a name, with steps to where it is before and after. -/
theorem walked_eq_of_parent (hq : p.parent? = some q) (hne : p.steps ≠ []) :
    ∃ dots last rest, p.walked = q.walked ++ dots ++ [last] ++ rest ∧ (∀ step ∈ dots, step = ".") ∧
      last ≠ "." ∧ (∀ step ∈ rest, step = ".") ∧ (p.Trimmed → rest = []) := by
  obtain ⟨-, hnil, -⟩ | ⟨front, last, hparts, rfl⟩ := parent?_cases hq
  · exact absurd hnil hne
  · have hlast := matters_of_trimParts hparts
    simp only [Path.matters, Bool.not_eq_true', Bool.or_eq_false_iff, beq_eq_false_iff_ne] at hlast
    obtain ⟨more, hmore, hmoreDots⟩ := exists_trimParts p.parts
    obtain ⟨less, hless, hlessDots⟩ := exists_trimParts front
    refine ⟨less.filter (· != ""), last, more.filter (· != ""), ?_, hlessDots, hlast.2, hmoreDots, ?_⟩
    · have hwalked : p.parts.filter (· != "") =
          (Path.trimParts front).filter (· != "") ++ less.filter (· != "") ++ [last] ++
            more.filter (· != "") := by
        rw [← List.filter_append, ← hless]
        conv_lhs => rw [hmore, hparts, List.filter_append, List.filter_append]
        simp [hlast.1]
      rw [Path.walked, hwalked, Path.walked]
      simp only [List.append_assoc]
    · intro ht
      rw [Path.Trimmed] at ht
      rw [ht] at hmore
      rw [List.self_eq_append_right.mp hmore]
      rfl

theorem foldl_next_dots {dots : List String} (h : ∀ step ∈ dots, step = ".") (loc : Location) :
    dots.foldl next loc = loc := by
  induction dots with
  | nil => rfl
  | cons step dots ih =>
    obtain ⟨rfl, hrest⟩ := List.forall_mem_cons.mp h
    exact ih hrest

theorem exists_prefix_of_dots {dots front : List String} (hdots : ∀ step ∈ dots, step = ".")
    (hfront : front <+: steps ++ dots) (loc : Location) :
    ∃ front', front' <+: steps ∧ front'.foldl next loc = front.foldl next loc := by
  rcases List.prefix_or_prefix_of_prefix hfront (List.prefix_append steps dots) with hshort | ⟨rest, rfl⟩
  · exact ⟨front, hshort, rfl⟩
  · have hrest := (List.prefix_append_right_inj steps).mp hfront
    refine ⟨steps, List.prefix_refl _, ?_⟩
    rw [List.foldl_append, foldl_next_dots fun step hstep => hdots step (hrest.subset hstep)]

theorem Tree.walk_dots {dots : List String} (h : ∀ step ∈ dots, step = ".") :
    tree.walk loc dots = .ok loc ∨ (tree.walk loc dots = .error .notDirectory ∧
      ¬tree.isDirectory loc) := by
  induction dots with
  | nil => exact .inl rfl
  | cons step dots ih =>
    obtain ⟨rfl, hrest⟩ := List.forall_mem_cons.mp h
    rw [walk_cons]
    by_cases hdir : tree.isDirectory loc
    · have henter : tree.enter loc "." = .ok loc := by simp [enter, hdir]
      rw [henter]
      exact ih hrest
    · have henter : tree.enter loc "." = .error .notDirectory := by simp [enter, hdir]
      rw [henter]
      exact .inr ⟨rfl, hdir⟩

theorem intercalate_prefix {s t : List (List Char)} (h : s <+: t) :
    ['/'].intercalate s <+: ['/'].intercalate t := by
  induction s generalizing t with
  | nil => exact List.nil_prefix
  | cons first s ih =>
    obtain ⟨rest, rfl⟩ := h
    cases s with
    | nil =>
      cases rest with
      | nil => exact List.prefix_refl _
      | cons second rest =>
        rw [List.singleton_append, List.intercalate_cons_cons, List.append_assoc,
          List.intercalate_singleton]
        exact List.prefix_append _ _
    | cons second s =>
      rw [List.cons_append, List.cons_append, List.intercalate_cons_cons, List.intercalate_cons_cons]
      exact (List.prefix_append_right_inj _).mpr (ih ⟨rest, rfl⟩)

theorem exists_toString_parent (hq : p.parent? = some q) : ∃ rest, p.toString = q.toString ++ rest := by
  obtain ⟨-, -, rfl⟩ | ⟨front, last, hparts, rfl⟩ := parent?_cases hq
  · exact ⟨p.toString, by simp [Path.toString, Path.Start.text]⟩
  · have hfront : Path.trimParts front <+: p.parts :=
      (prefix_trimParts front).trans (List.IsPrefix.trans ⟨[last], hparts.symm⟩ (prefix_trimParts p.parts))
    obtain ⟨rest, hrest⟩ := intercalate_prefix (hfront.map String.toList)
    refine ⟨String.ofList rest, String.toList_inj.mp ?_⟩
    rw [String.toList_append, String.toList_ofList, toList_toString, toList_toString, List.append_assoc,
      hrest]

theorem exists_route_parent (hq : p.parent? = some q) (hne : q.toString ≠ "")
    (hroute : tree.route p.toString = .ok route) : ∃ route', tree.route q.toString = .ok route' := by
  obtain ⟨rest, hrest⟩ := exists_toString_parent hq
  have hsize : q.toString.utf8ByteSize ≤ p.toString.utf8ByteSize := by
    rw [hrest, String.utf8ByteSize_append]
    exact Nat.le_add_right _ _
  unfold Tree.route at hroute ⊢
  split at hroute
  · cases hroute
  · next hzero =>
    split at hroute
    · cases hroute
    · split at hroute
      · cases hroute
      · next hshort =>
        have hzero' : q.toString.toList.contains '\x00' = false := by
          rw [hrest] at hzero
          simp only [String.toList_append, List.contains_eq_mem, List.mem_append] at hzero ⊢
          simpa using fun h => hzero (by simp [h])
        have hempty : q.toString.isEmpty = false := by simpa using hne
        simp only [hzero', hempty, Bool.false_eq_true, if_false,
          if_neg (show ¬pathLimit ≤ q.toString.utf8ByteSize by omega)]
        exact ⟨_, rfl⟩

/-! ## All directories on a way -/

theorem makeDirectories_reached (fuel : Nat) (hne : p.toString ≠ "")
    (h : tree.makeDirectory p.toString ≠ .error .notFound) :
    makeDirectories tree (fuel + 1) p = attempt tree p.toString := by
  rw [makeDirectories_succ tree fuel hne]
  split
  · next hmake => exact absurd hmake h
  · rfl

/-- Trees that differ in directories that were made on a way. -/
def Paves (path : String) (before after : Tree) : Prop :=
  ∀ loc, after.get? loc = before.get? loc ∨
    (Passes before path loc ∧ before.get? loc = none ∧ after.get? loc = some .directory)

theorem paves_attempt (tree : Tree) (path : String) : Paves path tree (attempt tree path).1 := by
  unfold attempt
  cases hmake : tree.makeDirectory path with
  | error e => exact fun _ => .inl rfl
  | ok made =>
    cases hroute : tree.route path with
    | error e => simp [makeDirectory, hroute, Except.bind] at hmake
    | ok route =>
      rw [makeDirectory_of_parentOf hroute] at hmake
      split at hmake
      · cases hmake
      · cases hmake
      · next dir name hparent =>
        have hplace := (endsIn_of_parentOf hparent).eq_place hroute
        split at hmake
        · cases hmake
        · split at hmake
          · cases hmake
          · next hfree =>
            cases hmake
            intro loc
            by_cases hloc : loc = dir ++ [name]
            · subst hloc
              refine .inr ⟨hplace ▸ passes_place tree path, by simpa using hfree, ?_⟩
              exact get?_put _ _ (by simp)
            · exact .inl (get?_put_of_ne _ _ hloc)

theorem Paves.trans {last : Tree} (h : Paves path tree after) (h' : Paves path after last)
    (hworkDir : after.workDir = tree.workDir) : Paves path tree last := by
  intro loc
  rcases h' loc with hsame | ⟨hpass, hnone, hmade⟩
  · rw [hsame]
    exact h loc
  · rcases h loc with hsame | ⟨-, -, hdir⟩
    · exact .inr ⟨(passes_congr hworkDir).mp hpass, hsame ▸ hnone, hmade⟩
    · rw [hnone] at hdir
      cases hdir

/-- Only directories on the way are new, whether or not all can be made. -/
theorem paves_makeDirectories (hp : p.Spelled) (tree : Tree) (fuel : Nat) :
    Paves p.toString tree (makeDirectories tree fuel p).1 := by
  induction fuel generalizing p with
  | zero => exact fun _ => .inl rfl
  | succ fuel ih =>
    by_cases hne : p.toString = ""
    · simp only [makeDirectories, hne]
      exact fun _ => .inl rfl
    rw [makeDirectories_succ tree fuel hne]
    split
    · cases hq : p.parent? with
      | none => exact fun _ => .inl rfl
      | some q =>
        have habove : Paves p.toString tree (makeDirectories tree fuel q).1 := fun loc =>
          (ih (hp.parent hq) loc).imp_right fun h => ⟨h.1.of_parent hp hq, h.2⟩
        have hworkDir := (keeps_makeDirectories tree fuel q).workDir
        dsimp only
        split
        · next above e hmade => exact hmade ▸ habove
        · next above hmade =>
          rw [hmade] at habove hworkDir
          exact habove.trans (paves_attempt above _) hworkDir
    · exact paves_attempt tree _

/-- What comes of making the directories of a path. -/
def Tree.makesPath (tree : Tree) (path : String) : Except IoError Unit :=
  if path.isEmpty then .ok () else (tree.route path).bind fun route => tree.makes route.start route.steps

/-- All that lies on the way of a path is a directory. -/
def Tree.Paved (tree : Tree) (path : String) : Prop :=
  Covers (tree.isDirectory ·) tree path

/-- A path without a step upwards. -/
def Level (path : String) : Prop :=
  ".." ∉ stepsOf path.toList

theorem Level.parent (h : Level p.toString) (hp : p.Spelled) (hq : p.parent? = some q) :
    Level q.toString := by
  rw [Level, stepsOf_toString (hp.parent hq)]
  rw [Level, stepsOf_toString hp] at h
  exact fun hmem => h ((walked_parent hq).subset hmem)

theorem Tree.Sound.isDirectory_origin (h : tree.Sound) (path : String) :
    tree.isDirectory (originOf tree path) := by
  unfold originOf
  split
  · exact isDirectory_nil tree
  · exact h.workDir

theorem paved_of_leadsToDirectory (h : tree.leadsToDirectory path) : tree.Paved path := by
  cases hroute : tree.route path with
  | error e => simp [leadsToDirectory, locate, hroute] at h
  | ok route =>
    rw [leadsToDirectory_eq hroute] at h
    cases hwalk : tree.walk route.start route.steps with
    | error e => simp [hwalk] at h
    | ok found =>
      rw [hwalk] at h
      obtain ⟨hstart, hsteps⟩ := route_ok hroute
      rintro loc ⟨front, hfront, rfl⟩
      rw [← hsteps] at hfront
      rw [← hstart]
      exact isDirectory_of_walk hwalk h front hfront

theorem walk_of_paved (hp : p.Spelled) (hpaved : tree.Paved p.toString)
    (hshort : ∀ step ∈ p.walked, ¬TooLong step) :
    tree.walk (originOf tree p.toString) p.walked = .ok (tree.place p.toString) ∧
      tree.isDirectory (tree.place p.toString) := by
  have hdirs : ∀ front, front <+: p.walked →
      tree.isDirectory (front.foldl next (originOf tree p.toString)) := by
    intro front hfront
    exact hpaved _ ⟨front, by rwa [stepsOf_toString hp], rfl⟩
  rw [place_eq_foldl, stepsOf_toString hp]
  exact ⟨walk_of_directories hshort hdirs, hdirs _ (List.prefix_refl _)⟩

theorem not_passes_below {dir : Location} (hlevel : Level path) (hdir : tree.place path = dir)
    (name : String) : ¬Passes tree path (dir ++ [name]) := by
  rintro ⟨front, hfront, heq⟩
  have hprefix := foldl_next_prefix hlevel hfront (originOf tree path)
  rw [heq, ← place_eq_foldl, hdir] at hprefix
  have hlength := hprefix.length_le
  rw [List.length_append, List.length_singleton] at hlength
  omega

theorem originOf_parent (hp : p.Spelled) (hq : p.parent? = some q) (tree : Tree) :
    originOf tree q.toString = originOf tree p.toString := by
  rw [originOf_toString hp, originOf_toString (hp.parent hq)]
  simp only [Path.origin, start_parent hq]

/-- A directory is missed on the way to the parent. -/
structure Misses (tree : Tree) (p q : Path) (dots : List String) (last : String) : Prop where
  parent : p.parent? = some q
  shorter : q.parts.length < p.parts.length
  walked : p.walked = q.walked ++ dots ++ [last]
  dots : ∀ step ∈ dots, step = "."
  last : last ≠ "."
  walk : tree.walk (originOf tree p.toString) q.walked = .error .notFound

/-- Where a directory cannot be made because something is missing, the way to its last step fails. -/
theorem walk_of_makeDirectory (hroute : tree.route path = .ok route)
    (hmake : tree.makeDirectory path = .error .notFound) :
    ∃ front last, route.steps = front ++ [last] ∧
      tree.walk route.start front = .error .notFound := by
  rw [makeDirectory_of_parentOf hroute] at hmake
  rcases List.eq_nil_or_concat route.steps with hnil | ⟨front, last, hsteps⟩
  · simp [parentOf, hnil] at hmake
  · rw [List.concat_eq_append] at hsteps
    refine ⟨front, last, hsteps, ?_⟩
    rw [parentOf_concat hsteps] at hmake
    cases hwalk : tree.walk route.start front with
    | error e =>
      rw [hwalk] at hmake
      exact congrArg Except.error (Except.error.inj hmake)
    | ok dir =>
      rw [hwalk] at hmake
      by_cases hdir : tree.isDirectory dir
      · by_cases hspecial : last = "." ∨ last = ".."
        · simp [hdir, hspecial] at hmake
        · simp only [hdir, hspecial, Bool.not_true, Bool.false_eq_true, if_false] at hmake
          split at hmake
          · cases hmake
          · split at hmake <;> cases hmake
      · simp [hdir] at hmake

theorem Path.Trimmed.steps_ne_nil {front : List String} {last : String} (ht : p.Trimmed)
    (hwalked : p.walked = front ++ [last]) (hfront : front ≠ []) : p.steps ≠ [] := by
  intro hnil
  have hshort : p.walked.length ≤ 1 := by
    rw [Path.walked, ht.parts_eq_nil hnil]
    split <;> simp
  rw [hwalked, List.length_append, List.length_singleton] at hshort
  exact hfront (List.eq_nil_of_length_eq_zero (by omega))

theorem exists_misses (hp : p.Spelled) (ht : p.Trimmed) (hroute : tree.route p.toString = .ok route)
    (hmake : tree.makeDirectory p.toString = .error .notFound) :
    ∃ q dots last, Misses tree p q dots last := by
  obtain ⟨hstart, hsteps⟩ := route_ok hroute
  rw [stepsOf_toString hp] at hsteps
  obtain ⟨front, last, hwalked, hwalk⟩ := walk_of_makeDirectory hroute hmake
  rw [hsteps] at hwalked
  rw [hstart] at hwalk
  have hne : p.steps ≠ [] := by
    refine ht.steps_ne_nil hwalked ?_
    rintro rfl
    cases hwalk
  obtain ⟨q, hq⟩ := exists_parent_of_steps hne
  obtain ⟨dots, name, rest, hparent, hdots, hname, -, hrest⟩ := walked_eq_of_parent hq hne
  rw [hrest ht, List.append_nil] at hparent
  obtain ⟨rfl, -⟩ := List.append_inj' (hwalked.symm.trans hparent) rfl
  refine ⟨q, dots, name, hq, length_parts_parent hq hne, hparent, hdots, hname, ?_⟩
  rw [walk_append] at hwalk
  cases hfront : tree.walk (originOf tree p.toString) q.walked with
  | error e =>
    rw [hfront] at hwalk
    exact hwalk
  | ok mid =>
    rw [hfront] at hwalk
    change tree.walk mid dots = _ at hwalk
    rcases walk_dots hdots with hwalk' | ⟨hwalk', -⟩ <;> cases hwalk'.symm.trans hwalk

theorem Misses.walk_all {dots : List String} {last : String} (h : Misses tree p q dots last) :
    tree.walk (originOf tree p.toString) p.walked = .error .notFound := by
  rw [h.walked, List.append_assoc]
  exact walk_error_append h.walk _

theorem Misses.attempt {dots : List String} {last : String} {above : Tree}
    (h : Misses tree p q dots last) (hp : p.Spelled) (hsound : tree.Sound) (hlevel : Level p.toString)
    (hroute : above.route p.toString = .ok route) (hworkDir : above.workDir = tree.workDir)
    (hpaves : Paves q.toString tree above) (hpaved : above.Paved q.toString)
    (hshort : ∀ step ∈ q.walked, ¬TooLong step) :
    (attempt above p.toString).2 = (if TooLong last then .error .nameTooLong else .ok ()) ∧
      ((Storage.attempt above p.toString).2 = .ok () →
        (Storage.attempt above p.toString).1.Paved p.toString) := by
  have hp' := hp.parent h.parent
  obtain ⟨hstart, hsteps⟩ := route_ok hroute
  rw [stepsOf_toString hp] at hsteps
  have hlast : last ≠ ".." := by
    rintro rfl
    rw [Level, stepsOf_toString hp, h.walked] at hlevel
    exact hlevel (by simp)
  obtain ⟨hparent, hdir⟩ := walk_of_paved hp' hpaved hshort
  have hwalk : above.walk route.start (q.walked ++ dots) = .ok (above.place q.toString) := by
    rw [walk_append, hstart, ← originOf_parent hp h.parent, hparent]
    exact (walk_dots h.dots).resolve_right fun hnot => hnot.2 hdir
  have hmissing : above.get? (above.place q.toString ++ [last]) = none := by
    have hplace : p.walked.foldl next (originOf tree p.toString) =
        above.place q.toString ++ [last] := by
      rw [h.walked, List.foldl_append, List.foldl_append, foldl_next_dots h.dots, place_congr hworkDir,
        place_eq_foldl, stepsOf_toString hp', originOf_parent hp h.parent]
      simp [next, h.last, hlast]
    have hnone : tree.get? (above.place q.toString ++ [last]) = none := by
      rw [← hplace]
      refine hsound.walk_notFound ?_ h.walk_all
      rwa [Level, stepsOf_toString hp] at hlevel
    rcases hpaves (above.place q.toString ++ [last]) with hsame | ⟨hpass, -, -⟩
    · rw [hsame, hnone]
    · exact absurd hpass (not_passes_below (hlevel.parent hp h.parent) (place_congr hworkDir).symm last)
  obtain ⟨hresult, hleads⟩ := tried_name hroute (hsteps.trans h.walked) hwalk hdir ⟨h.last, hlast⟩
  rw [hsteps, h.walked, makes_concat hwalk hdir ⟨h.last, hlast⟩, hmissing] at hresult
  exact ⟨hresult, fun hok => paved_of_leadsToDirectory (hleads hok)⟩

theorem makes_of_notFound (h : tree.walk loc steps = .error .notFound) :
    tree.makes loc steps =
      if ∃ step ∈ steps, TooLong step then .error .nameTooLong else .ok () := by
  rw [makes, h]

theorem walked_of_empty (hp : p.Spelled) (h : p.toString = "") : p.walked = [] := by
  rw [← stepsOf_toString hp, h]
  rfl

theorem makesPath_parent (hp : p.Spelled) (hq : p.parent? = some q) (hne : q.toString ≠ "")
    (hroute : tree.route p.toString = .ok route) :
    tree.makesPath q.toString = tree.makes (originOf tree p.toString) q.walked := by
  obtain ⟨route', hroute'⟩ := exists_route_parent hq hne hroute
  obtain ⟨hstart, hsteps⟩ := route_ok hroute'
  have hempty : q.toString.isEmpty = false := by simpa using hne
  rw [Tree.makesPath, hempty, hroute']
  change tree.makes route'.start route'.steps = _
  rw [hstart, hsteps, stepsOf_toString (hp.parent hq), originOf_parent hp hq]

theorem Misses.makesPath {dots : List String} {last : String} (h : Misses tree p q dots last)
    (hp : p.Spelled) (hroute : tree.route p.toString = .ok route) :
    tree.makesPath q.toString =
      if ∃ step ∈ q.walked, TooLong step then .error .nameTooLong else .ok () := by
  have hne : q.toString ≠ "" := by
    intro hempty
    have hwalk := h.walk
    rw [walked_of_empty (hp.parent h.parent) hempty] at hwalk
    cases hwalk
  rw [makesPath_parent hp h.parent hne hroute, makes_of_notFound h.walk]

theorem short_of_makesPath (hq : q.Spelled) (h : tree.makesPath q.toString = .ok ()) :
    ∀ step ∈ q.walked, ¬TooLong step := by
  unfold Tree.makesPath at h
  split at h
  · next hempty =>
    rw [walked_of_empty hq (by simpa using hempty)]
    simp
  · cases hroute : tree.route q.toString with
    | error e =>
      rw [hroute] at h
      cases h
    | ok route =>
      rw [hroute] at h
      have hmakes : tree.makes route.start route.steps = .ok () := h
      rw [← stepsOf_toString hq, ← (route_ok hroute).2]
      unfold Tree.makes at hmakes
      split at hmakes
      · next found hwalk => exact not_tooLong_of_walk hwalk
      · split at hmakes
        · cases hmakes
        · next hshort => simpa using hshort
      · cases hmakes

theorem route_error {e : IoError} (h : tree.route path = .error e) (hne : path ≠ "") :
    e ≠ .notFound := by
  rintro rfl
  unfold Tree.route at h
  split at h
  · cases h
  · split at h
    · next hempty => exact hne (by simpa using hempty)
    · split at h <;> cases h

theorem Misses.exists_tooLong_iff {dots : List String} {last : String} (h : Misses tree p q dots last)
    (hshort : ∀ step ∈ q.walked, ¬TooLong step) : (∃ step ∈ p.walked, TooLong step) ↔ TooLong last := by
  constructor
  · rintro ⟨step, hstep, hlong⟩
    rw [h.walked, List.mem_append, List.mem_append, List.mem_singleton] at hstep
    rcases hstep with (hstep | hstep) | rfl
    · exact absurd hlong (hshort step hstep)
    · rw [h.dots step hstep] at hlong
      exact absurd hlong (by decide)
    · exact hlong
  · exact fun hlong => ⟨last, by simp [h.walked], hlong⟩

/-- Making the directories of a path comes to what can be made, and all of them are there then if it does
not fail. -/
structure Makes (tree : Tree) (path : String) (made : Tree × Except IoError Unit) : Prop where
  result : made.2 = tree.makesPath path
  paved : made.2 = .ok () → made.1.Paved path

theorem makes_of_empty (hsound : tree.Sound) (h : path = "") : Makes tree path (tree, .ok ()) := by
  subst h
  refine ⟨rfl, fun _ => ?_⟩
  rintro loc ⟨front, hfront, rfl⟩
  obtain rfl : front = [] := List.prefix_nil.mp hfront
  exact hsound.isDirectory_origin _

theorem makes_of_route_error {e : IoError} (hne : path ≠ "") (hroute : tree.route path = .error e) :
    Makes tree path (attempt tree path) := by
  have hmake : tree.makeDirectory path = .error e := by simp [makeDirectory, hroute, Except.bind]
  have hleads : tree.leadsToDirectory path = false := by simp [leadsToDirectory, locate, hroute]
  have hattempt : attempt tree path = (tree, .error e) := by
    rw [attempt_error hmake, hleads]
    rfl
  have hpath : tree.makesPath path = .error e := by
    rw [Tree.makesPath, if_neg (by simpa using hne), hroute]
    rfl
  rw [hattempt]
  exact ⟨hpath.symm, nofun⟩

theorem Tried.makes (h : Tried tree path route) (hne : path ≠ "")
    (hroute : tree.route path = .ok route) : Makes tree path (attempt tree path) where
  result := by
    rw [h.result, Tree.makesPath, if_neg (by simpa using hne), hroute]
    rfl
  paved hok := paved_of_leadsToDirectory (h.leads hok)

/-- If a directory is missed on the way to the parent, the parent is made first. -/
theorem Misses.makes {dots : List String} {last : String} {fuel : Nat} (h : Misses tree p q dots last)
    (hsound : tree.Sound) (hp : p.Spelled) (hlevel : Level p.toString) (hne : p.toString ≠ "")
    (hroute : tree.route p.toString = .ok route)
    (hmiss : tree.makeDirectory p.toString = .error .notFound)
    (hparent : Makes tree q.toString (makeDirectories tree fuel q)) :
    Makes tree p.toString (makeDirectories tree (fuel + 1) p) := by
  obtain ⟨hresult, hpaved⟩ := hparent
  have hkeeps := keeps_makeDirectories tree fuel q
  have hpaves := paves_makeDirectories (hp.parent h.parent) tree fuel
  have hpath : tree.makesPath p.toString =
      if ∃ step ∈ p.walked, TooLong step then .error .nameTooLong else .ok () := by
    obtain ⟨hstart, hsteps⟩ := route_ok hroute
    rw [Tree.makesPath, if_neg (by simpa using hne), hroute]
    change tree.makes route.start route.steps = _
    rw [hstart, hsteps, stepsOf_toString hp, makes_of_notFound h.walk_all]
  rw [h.makesPath hp hroute] at hresult
  rw [makeDirectories_succ tree fuel hne, hmiss, h.parent]
  dsimp only
  generalize makeDirectories tree fuel q = made at hresult hpaved hkeeps hpaves
  obtain ⟨above, ended⟩ := made
  -- A step of the parent that is too long stops both; else the parent is there for the last step.
  by_cases hlong : ∃ step ∈ q.walked, TooLong step
  · obtain rfl : ended = .error .nameTooLong := hresult.trans (if_pos hlong)
    obtain ⟨step, hstep, htoo⟩ := hlong
    exact ⟨(hpath.trans (if_pos ⟨step, by simp [h.walked, hstep], htoo⟩)).symm, nofun⟩
  · obtain rfl : ended = .ok () := hresult.trans (if_neg hlong)
    have hshort : ∀ step ∈ q.walked, ¬TooLong step := fun step hstep htoo => hlong ⟨step, hstep, htoo⟩
    obtain ⟨hlast, hall⟩ := h.attempt hp hsound hlevel ((hkeeps.route_eq _).trans hroute)
      hkeeps.workDir hpaves (hpaved rfl) hshort
    exact ⟨hlast.trans (by simp only [hpath, h.exists_tooLong_iff hshort]), hall⟩

/-- Whether all directories of a path can be made, and that they are there if so. -/
theorem makes_makeDirectories (hsound : tree.Sound) (hp : p.Spelled) (ht : p.Trimmed)
    (hlevel : Level p.toString) {fuel : Nat} (hfuel : p.parts.length < fuel) :
    Makes tree p.toString (makeDirectories tree fuel p) := by
  -- By induction on the fuel: a parent has fewer parts, and it is made only if the path misses something.
  induction fuel generalizing p with
  | zero => cases hfuel
  | succ fuel ih =>
    by_cases hne : p.toString = ""
    · have hdone : makeDirectories tree (fuel + 1) p = (tree, .ok ()) := by
        simp only [makeDirectories, hne]
        rfl
      exact hdone ▸ makes_of_empty hsound hne
    cases hroute : tree.route p.toString with
    | error e =>
      have hreach : tree.makeDirectory p.toString ≠ .error .notFound := by
        have hmake : tree.makeDirectory p.toString = .error e := by
          simp [makeDirectory, hroute, Except.bind]
        rw [hmake]
        exact fun h => route_error hroute hne (Except.error.inj h)
      exact makeDirectories_reached fuel hne hreach ▸ makes_of_route_error hne hroute
    | ok route =>
      by_cases hmiss : tree.makeDirectory p.toString = .error .notFound
      · obtain ⟨q, dots, last, h⟩ := exists_misses hp ht hroute hmiss
        exact h.makes hsound hp hlevel hne hroute hmiss <|
          ih (hp.parent h.parent) (Path.Trimmed.parent h.parent) (hlevel.parent hp h.parent)
            (Nat.lt_of_lt_of_le h.shorter (Nat.le_of_lt_succ hfuel))
      · have hup : ".." ∉ route.steps := (route_ok hroute).2 ▸ hlevel
        rw [makeDirectories_reached fuel hne hmiss]
        exact (tried_of_reached hroute hup hmiss).makes hne hroute

end RowTypes.Storage
