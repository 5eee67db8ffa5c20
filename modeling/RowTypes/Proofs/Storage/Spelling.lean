import Mathlib.Data.List.DropRight
import RowTypes.Proofs.Storage.Writing
import RowTypes.Proofs.Text.Lines

/-!
Texts of paths, step by step. A path that was taken apart spells the text that it came from; its parent
spells the beginning of the same steps, and the sibling of a file one more step after those. So what
lies on the way to the directories and to the sibling of a file lies on the way to the file.

What is proved:
  1. `stepsOf_toString`, `head?_toString`: the steps and the start of the text of a path.
  2. `Spelled.parent`, `steps_parent`: a parent has all steps but the last.
  3. `place_eq_concat`, `place_temporaryPath`: where a file and its sibling stand.
  4. `Passes.of_parent`, `Passes.of_temporaryPath`: what lies on the way to them.
-/

namespace RowTypes.Storage

open Storage.Tree

variable {s t : List Char} {parts : List String} {p q : Path} {tree : Tree} {loc : Location}
  {name : String}

/-! ## Steps of a text -/

/-- The steps of a text between its slashes. -/
def stepsOf (s : List Char) : List String :=
  (Path.split s).filter (· != "")

@[simp] theorem stepsOf_nil : stepsOf [] = [] := rfl

theorem stepsOf_append_slash (s t : List Char) :
    stepsOf (s ++ '/' :: t) = stepsOf s ++ stepsOf t := by
  simp [stepsOf, Path.split, List.splitOn_append_cons_self]

theorem split_slash (s : List Char) : Path.split ('/' :: s) = "" :: Path.split s := by
  simp [Path.split, List.splitOn_cons_eq_if_modifyHead]

theorem stepsOf_slash (s : List Char) : stepsOf ('/' :: s) = stepsOf s :=
  stepsOf_append_slash [] s

theorem stepsOf_append_slash_nil (s : List Char) : stepsOf (s ++ ['/']) = stepsOf s := by
  rw [stepsOf_append_slash, stepsOf_nil, List.append_nil]

theorem stepsOf_of_slashless (h : '/' ∉ name.toList) (hne : name ≠ "") :
    stepsOf name.toList = [name] := by
  simp [stepsOf, Path.split, List.splitOn_eq_singleton h, hne]

theorem split_intercalate (h : ∀ part ∈ parts, '/' ∉ part.toList) (hne : parts ≠ []) :
    Path.split (['/'].intercalate (parts.map String.toList)) = parts := by
  have hpieces : (String.ofList ∘ String.toList) = id := funext fun _ => String.ofList_toList
  rw [Path.split, List.splitOn_intercalate '/' (by simpa using h) (by simpa using hne), List.map_map,
    hpieces, List.map_id]

theorem stepsOf_intercalate (h : ∀ part ∈ parts, '/' ∉ part.toList) :
    stepsOf (['/'].intercalate (parts.map String.toList)) = parts.filter (· != "") := by
  by_cases hne : parts = []
  · subst hne
    rfl
  · rw [stepsOf, split_intercalate h hne]

theorem slashless_of_mem_split {part : String} (h : part ∈ Path.split s) : '/' ∉ part.toList := by
  obtain ⟨piece, hpiece, rfl⟩ := List.mem_map.mp h
  rw [String.toList_ofList]
  exact Text.not_mem_of_mem_splitOn hpiece

theorem intercalate_split (s : List Char) :
    ['/'].intercalate ((Path.split s).map String.toList) = s := by
  rw [Path.split, List.map_map]
  have hpieces : (String.toList ∘ String.ofList) = (id : List Char → List Char) :=
    funext fun _ => String.toList_ofList
  rw [hpieces, List.map_id, List.intercalate_splitOn]

/-! ## The text of a path -/

/-- The parts of a path come of a text. -/
structure Path.Spelled (p : Path) : Prop where
  slashless : ∀ part ∈ p.parts, '/' ∉ part.toList
  /-- A slash follows the dot of a path that starts here. -/
  here : p.start = .here → ∀ part ∈ p.parts.head?, part = ""
  /-- A path without a start does not begin with a slash. -/
  plain : p.start = .plain → p.parts.head? = some "" → p.parts = [""]

/-- The steps that the text of a path is walked in. -/
def Path.walked (p : Path) : List String :=
  (if p.start = .here then ["."] else []) ++ p.parts.filter (· != "")

/-- The characters that tell where a path starts. -/
def Start.chars : Start → List Char
  | root => ['/']
  | here => ['.']
  | plain => []

theorem toList_toString (p : Path) : p.toString.toList =
    p.start.chars ++ ['/'].intercalate (p.parts.map String.toList) := by
  have hstart : (Path.Start.text p.start).toList = p.start.chars := by
    cases p.start <;> simp [Path.Start.text, Start.chars]
  have hslash : "/".toList = ['/'] := by simp
  rw [Path.toString, String.toList_append, String.toList_intercalate, hstart, hslash]

theorem intercalate_cons_nil (parts : List (List Char)) (hne : parts ≠ []) :
    ['/'].intercalate ([] :: parts) = '/' :: ['/'].intercalate parts := by
  obtain ⟨part, parts, rfl⟩ := List.exists_cons_of_ne_nil hne
  rw [List.intercalate_cons_cons]
  rfl

theorem stepsOf_toString (h : p.Spelled) : stepsOf p.toString.toList = p.walked := by
  obtain ⟨start, parts⟩ := p
  have hparts : stepsOf (['/'].intercalate (parts.map String.toList)) = parts.filter (· != "") :=
    stepsOf_intercalate h.slashless
  rw [toList_toString]
  cases start with
  | root =>
    change stepsOf ('/' :: ['/'].intercalate (parts.map String.toList)) = parts.filter (· != "")
    rw [stepsOf_slash, hparts]
  | plain => exact hparts
  | here =>
    change stepsOf ('.' :: ['/'].intercalate (parts.map String.toList)) =
      "." :: parts.filter (· != "")
    cases parts with
    | nil => decide
    | cons first rest =>
      obtain rfl : first = "" := h.here rfl first rfl
      cases rest with
      | nil => decide
      | cons part rest =>
        rw [List.map_cons, String.toList_empty, intercalate_cons_nil _ (by simp)] at hparts ⊢
        rw [stepsOf_slash] at hparts
        exact (stepsOf_append_slash ['.'] _).trans (congrArg ("." :: ·) hparts)

theorem head?_toString (h : p.Spelled) :
    p.toString.toList.head? = some '/' ↔ p.start = .root := by
  obtain ⟨start, parts⟩ := p
  rw [toList_toString]
  cases start with
  | root => simp [Start.chars]
  | here => simp [Start.chars]
  | plain =>
    simp only [Start.chars, List.nil_append, reduceCtorEq, iff_false]
    cases parts with
    | nil => simp
    | cons first rest =>
      cases hfirst : first.toList with
      | nil =>
        obtain rfl : first = "" := String.toList_inj.mp hfirst
        obtain rfl : rest = [] := by simpa using h.plain rfl rfl
        simp
      | cons c chars =>
        have hc : c ≠ '/' := by
          rintro rfl
          exact h.slashless first (by simp) (by simp [hfirst])
        cases rest with
        | nil => simpa [hfirst] using hc
        | cons part rest => simpa [hfirst, List.intercalate_cons_cons] using hc

theorem spelled_ofString (s : String) : (Path.ofString s).Spelled := by
  unfold Path.ofString Path.ofChars
  split
  · exact ⟨fun part hpart => slashless_of_mem_split hpart, nofun, nofun⟩
  · next r _ =>
    refine ⟨fun part hpart => slashless_of_mem_split hpart, fun _ part hpart => ?_, nofun⟩
    rw [split_slash] at hpart
    exact (Option.some.inj hpart).symm
  · exact ⟨by simp, by simp, nofun⟩
  · next chars hroot _ _ =>
    refine ⟨fun part hpart => slashless_of_mem_split hpart, nofun, fun _ hhead => ?_⟩
    cases hchars : s.toList with
    | nil => rfl
    | cons c rest =>
      have hc : (c == '/') = false := by
        rw [beq_eq_false_iff_ne]
        rintro rfl
        exact hroot rest hchars
      obtain ⟨piece, pieces, hpieces⟩ := List.exists_cons_of_ne_nil (List.splitOn_ne_nil '/' rest)
      rw [hchars, Path.split, List.splitOn_cons_eq_if_modifyHead, hc, hpieces] at hhead
      simp at hhead

theorem toString_ofString (s : String) : (Path.ofString s).toString = s := by
  apply String.toList_inj.mp
  rw [toList_toString]
  unfold Path.ofString Path.ofChars
  split
  · next r hs => rw [hs, intercalate_split]; rfl
  · next r hs => rw [hs, intercalate_split]; rfl
  · next hs => rw [hs]; decide
  · next => rw [intercalate_split]; rfl

/-! ## Parents -/

theorem prefix_trimParts (parts : List String) : Path.trimParts parts <+: parts :=
  List.rdropWhile_prefix _ parts

theorem filter_matters_trimParts (parts : List String) :
    (Path.trimParts parts).filter Path.matters = parts.filter Path.matters := by
  induction parts using List.reverseRecOn with
  | nil => rfl
  | append_singleton front part ih =>
    by_cases hpart : Path.matters part
    · rw [Path.trimParts, List.reverse_append, List.reverse_singleton, List.singleton_append,
        List.dropWhile_cons_of_neg (by simp [hpart]), List.reverse_cons, List.reverse_reverse]
    · rw [Path.trimParts, List.reverse_append, List.reverse_singleton, List.singleton_append,
        List.dropWhile_cons_of_pos (by simp [hpart]), ← Path.trimParts, ih, List.filter_append,
        List.filter_cons_of_neg (by simpa using hpart), List.filter_nil, List.append_nil]

theorem matters_of_trimParts {front : List String} {last : String}
    (h : Path.trimParts parts = front ++ [last]) : Path.matters last := by
  have hne : Path.trimParts parts ≠ [] := by simp [h]
  have hlast : (Path.trimParts parts).getLast hne = last := by simp [h]
  have hmatters := List.rdropWhile_last_not (fun part => !Path.matters part) parts hne
  rw [← hlast]
  simp only [Bool.not_eq_true', Bool.not_eq_false] at hmatters
  exact hmatters

theorem parent?_cases (h : p.parent? = some q) :
    (p.start = .here ∧ p.steps = [] ∧ q = ⟨.plain, []⟩) ∨
      ∃ front last, Path.trimParts p.parts = front ++ [last] ∧ q = ⟨p.start, Path.trimParts front⟩ := by
  unfold Path.parent? at h
  split at h
  · next hnil =>
    split at h
    · next hhere =>
      refine .inl ⟨hhere, ?_, (Option.some.inj h).symm⟩
      rw [Path.steps, ← filter_matters_trimParts, hnil]
      rfl
    · cases h
  · next hne =>
    have hparts : Path.trimParts p.parts ≠ [] := hne
    obtain rfl := Option.some.inj h
    exact .inr ⟨_, _, (List.dropLast_concat_getLast hparts).symm, rfl⟩

/-- The parent of a path has all steps but the last. -/
theorem steps_parent (h : p.parent? = some q) : q.steps = p.steps.dropLast := by
  obtain ⟨-, hsteps, rfl⟩ | ⟨front, last, hparts, rfl⟩ := parent?_cases h
  · rw [hsteps]
    rfl
  · rw [Path.steps, Path.steps, filter_matters_trimParts, ← filter_matters_trimParts p.parts, hparts,
      List.filter_append, List.filter_cons_of_pos (matters_of_trimParts hparts), List.filter_nil,
      List.dropLast_concat]

theorem Path.Spelled.of_prefix {start : Start} {front : List String}
    (h : Path.Spelled ⟨start, parts⟩) (hfront : front <+: parts) : Path.Spelled ⟨start, front⟩ := by
  have hhead : front ≠ [] → front.head? = parts.head? := by
    obtain ⟨rest, rfl⟩ := hfront
    intro hne
    rw [List.head?_append_of_ne_nil _ hne]
  refine ⟨fun part hpart => h.slashless part (hfront.subset hpart), fun hhere part hpart => ?_,
    fun hplain hempty => ?_⟩
  · exact h.here hhere part (hhead (by rintro rfl; cases hpart) ▸ hpart)
  · have hne : front ≠ [] := by
      rintro rfl
      cases hempty
    have hparts : parts = [""] := h.plain hplain ((hhead hne).symm.trans hempty)
    rw [hparts, ← List.nil_append [""], List.prefix_concat_iff, List.prefix_nil] at hfront
    exact hfront.resolve_right hne

theorem Path.Spelled.parent (h : p.Spelled) (hq : p.parent? = some q) : q.Spelled := by
  obtain ⟨-, -, rfl⟩ | ⟨front, last, hparts, rfl⟩ := parent?_cases hq
  · exact ⟨by simp, nofun, by simp⟩
  · refine Path.Spelled.of_prefix h (List.IsPrefix.trans (prefix_trimParts front) ?_)
    exact List.IsPrefix.trans ⟨[last], hparts.symm⟩ (prefix_trimParts p.parts)

theorem walked_parent (h : p.parent? = some q) : q.walked <+: p.walked := by
  obtain ⟨hhere, -, rfl⟩ | ⟨front, last, hparts, rfl⟩ := parent?_cases h
  · simp [Path.walked]
  · have hfront : Path.trimParts front <+: p.parts :=
      List.IsPrefix.trans (prefix_trimParts front)
        (List.IsPrefix.trans ⟨[last], hparts.symm⟩ (prefix_trimParts p.parts))
    exact (List.prefix_append_right_inj _).mpr (hfront.filter _)

theorem start_parent (h : p.parent? = some q) : q.start = .root ↔ p.start = .root := by
  obtain ⟨hhere, -, rfl⟩ | ⟨front, last, -, rfl⟩ := parent?_cases h
  · simp [hhere]
  · rfl

theorem exists_parent (h : p.name? = some name) :
    ∃ q, p.parent? = some q ∧ p.steps = q.steps ++ [name] ∧ name ≠ ".." ∧ name ≠ "." ∧ name ≠ "" := by
  rw [Path.name?, Option.filter_eq_some_iff] at h
  obtain ⟨hlast, hname⟩ := h
  obtain ⟨front, hsteps⟩ := List.getLast?_eq_some_iff.mp hlast
  have hparent : ∃ q, p.parent? = some q := by
    unfold Path.parent?
    split
    · next hnil =>
      have hempty : p.steps = [] := by
        rw [Path.steps, ← filter_matters_trimParts, hnil]
        rfl
      simp [hempty] at hsteps
    · exact ⟨_, rfl⟩
  obtain ⟨q, hq⟩ := hparent
  have hmatters : Path.matters name := by
    have hmem : name ∈ p.steps := by simp [hsteps]
    exact (List.mem_filter.mp hmem).2
  refine ⟨q, hq, ?_, by simpa using hname, ?_⟩
  · rw [steps_parent hq, hsteps, List.dropLast_concat]
  · simp only [Path.matters, Bool.not_eq_true', Bool.or_eq_false_iff, beq_eq_false_iff_ne] at hmatters
    exact ⟨hmatters.2, hmatters.1⟩

/-! ## Places -/

/-- The location that a path starts from. -/
def Path.origin (p : Path) (tree : Tree) : Location :=
  if p.start = .root then [] else tree.workDir

/-- The location that a text starts from. -/
def originOf (tree : Tree) (path : String) : Location :=
  if path.toList.head? = some '/' then [] else tree.workDir

theorem place_eq_foldl (tree : Tree) (path : String) :
    tree.place path = (stepsOf path.toList).foldl next (originOf tree path) := rfl

theorem originOf_toString (h : p.Spelled) : originOf tree p.toString = p.origin tree := by
  simp only [originOf, Path.origin, head?_toString h]

theorem foldl_next_filter (parts : List String) (loc : Location) :
    (parts.filter (· != "")).foldl next loc = (parts.filter Path.matters).foldl next loc := by
  induction parts generalizing loc with
  | nil => rfl
  | cons part parts ih =>
    by_cases hempty : part = ""
    · subst hempty
      exact ih loc
    · by_cases hdot : part = "."
      · subst hdot
        exact ih loc
      · rw [List.filter_cons_of_pos (by simpa using hempty),
          List.filter_cons_of_pos (by simp [Path.matters, hempty, hdot])]
        exact ih _

theorem place_toString (h : p.Spelled) (tree : Tree) :
    tree.place p.toString = p.steps.foldl next (p.origin tree) := by
  rw [place_eq_foldl, originOf_toString h, stepsOf_toString h, Path.walked, List.foldl_append,
    foldl_next_filter, Path.steps]
  congr 1
  split <;> rfl

/-- A file stands in the directory that its parent leads to. -/
theorem place_eq_concat (h : p.Spelled) (hq : p.parent? = some q) (hname : p.name? = some name) :
    tree.place p.toString = tree.place q.toString ++ [name] := by
  obtain ⟨r, hr, hsteps, habove, hdot, -⟩ := exists_parent hname
  obtain rfl := Option.some.inj (hq.symm.trans hr)
  have horigin : p.origin tree = q.origin tree := by
    simp only [Path.origin, start_parent hq]
  rw [place_toString h, place_toString (h.parent hq), hsteps, List.foldl_append, horigin]
  simp [next, habove, hdot]

/-! ## Siblings -/

/-- The name of the sibling that a file is written to first. -/
def siblingName (name : String) : String :=
  "." ++ name ++ ".tmp"

theorem toList_siblingName (name : String) :
    (siblingName name).toList = '.' :: (name.toList ++ ['.', 't', 'm', 'p']) := by
  simp [siblingName]

theorem siblingName_plain (name : String) :
    siblingName name ≠ "." ∧ siblingName name ≠ ".." ∧ siblingName name ≠ "" := by
  refine ⟨?_, ?_, ?_⟩ <;>
  · intro h
    have hlength := congrArg (fun s : String => s.toList.length) h
    simp [toList_siblingName] at hlength

theorem siblingName_ne (name : String) : siblingName name ≠ name := by
  intro h
  have hlength := congrArg (fun s : String => s.toList.length) h
  simp only [toList_siblingName, List.length_cons, List.length_append] at hlength
  omega

theorem size_le_siblingName (name : String) : name.utf8ByteSize ≤ (siblingName name).utf8ByteSize := by
  rw [siblingName, String.utf8ByteSize_append, String.utf8ByteSize_append]
  omega

theorem stepsOf_join {base rest : String} (h : rest.toList.head? ≠ some '/') :
    stepsOf (join base rest).toList = stepsOf base.toList ++ stepsOf rest.toList := by
  rw [join, if_neg h]
  by_cases hempty : base.isEmpty
  · obtain rfl : base = "" := by simpa using hempty
    simp
  · by_cases hslash : base.toList.getLast? = some '/'
    · obtain ⟨front, hfront⟩ := List.getLast?_eq_some_iff.mp hslash
      rw [if_pos (by simp [hslash]), String.toList_append, hfront, List.append_assoc,
        List.singleton_append, stepsOf_append_slash, stepsOf_append_slash_nil]
    · rw [if_neg (by simp [hempty, hslash])]
      simp [stepsOf_append_slash]

theorem originOf_join {base rest : String} (h : rest.toList.head? ≠ some '/') :
    originOf tree (join base rest) = originOf tree base := by
  have hhead : (join base rest).toList.head? = some '/' ↔ base.toList.head? = some '/' := by
    rw [join, if_neg h]
    by_cases hempty : base.isEmpty
    · obtain rfl : base = "" := by simpa using hempty
      simpa using h
    · have hne : base.toList ≠ [] := by simpa using hempty
      split
      · rw [String.toList_append, List.head?_append_of_ne_nil _ hne]
      · rw [String.toList_append, String.toList_append, List.append_assoc,
          List.head?_append_of_ne_nil _ hne]
  simp only [originOf, hhead]

section Sibling
variable (h : p.Spelled) (hq : p.parent? = some q) (hname : p.name? = some name)
include h hq hname

theorem stepsOf_temporaryPath (tree : Tree) :
    stepsOf (temporaryPath p name).toList = stepsOf q.toString.toList ++ [siblingName name] ∧
      originOf tree (temporaryPath p name) = originOf tree q.toString := by
  have hslashless : '/' ∉ name.toList := by
    obtain ⟨r, -, hsteps, -⟩ := exists_parent hname
    have hmem : name ∈ p.steps := by simp [hsteps]
    exact h.slashless name (List.mem_filter.mp hmem).1
  have hhead : (siblingName name).toList.head? ≠ some '/' := by
    simp [toList_siblingName]
  have hsibling : '/' ∉ (siblingName name).toList := by
    simp [toList_siblingName, hslashless]
  have hpath : temporaryPath p name = join q.toString (siblingName name) := by
    rw [temporaryPath, hq]
    rfl
  rw [hpath, stepsOf_join hhead, originOf_join hhead,
    stepsOf_of_slashless hsibling (siblingName_plain name).2.2]
  exact ⟨rfl, rfl⟩

/-- The sibling of a file stands beside it. -/
theorem place_temporaryPath (tree : Tree) :
    tree.place (temporaryPath p name) = tree.place q.toString ++ [siblingName name] := by
  obtain ⟨hsteps, horigin⟩ := stepsOf_temporaryPath h hq hname tree
  rw [place_eq_foldl, hsteps, horigin, List.foldl_append, ← place_eq_foldl]
  simp [next, siblingName_plain]

end Sibling

/-! ## What lies on the way -/

/-- A location that is looked at where a path is walked. -/
def Passes (tree : Tree) (path : String) (loc : Location) : Prop :=
  ∃ front, front <+: stepsOf path.toList ∧ front.foldl next (originOf tree path) = loc

theorem passes_place (tree : Tree) (path : String) : Passes tree path (tree.place path) :=
  ⟨_, List.prefix_refl _, rfl⟩

/-- The way to a parent is the beginning of the way to the path. -/
theorem Passes.of_parent (h : p.Spelled) (hq : p.parent? = some q) (hpass : Passes tree q.toString loc) :
    Passes tree p.toString loc := by
  obtain ⟨front, hfront, rfl⟩ := hpass
  have horigin : originOf tree p.toString = originOf tree q.toString := by
    rw [originOf_toString h, originOf_toString (h.parent hq)]
    simp only [Path.origin, start_parent hq]
  rw [stepsOf_toString (h.parent hq)] at hfront
  refine ⟨front, ?_, by rw [horigin]⟩
  rw [stepsOf_toString h]
  exact hfront.trans (walked_parent hq)

/-- The way to the sibling of a file is the way to its directory and the sibling. -/
theorem Passes.of_temporaryPath (h : p.Spelled) (hq : p.parent? = some q) (hname : p.name? = some name)
    (hpass : Passes tree (temporaryPath p name) loc) :
    Passes tree q.toString loc ∨ loc = tree.place (temporaryPath p name) := by
  obtain ⟨front, hfront, rfl⟩ := hpass
  obtain ⟨hsteps, horigin⟩ := stepsOf_temporaryPath h hq hname tree
  rw [hsteps, List.prefix_concat_iff] at hfront
  rcases hfront with rfl | hfront
  · right
    rw [place_eq_foldl, hsteps]
  · left
    exact ⟨front, hfront, by rw [horigin]⟩

end RowTypes.Storage
