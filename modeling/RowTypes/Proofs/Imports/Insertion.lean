import RowTypes.Proofs.Imports.Widening

/-!
Where a new import clause is put. It takes the place of the first blank line behind the first line, or
comes right behind the first line if none of the first few lines is blank. The package line is not
looked for: a clause comes behind it if it is the first line, or if nothing blank stands before it and
something blank soon after it.

What is proved:
  1. `inserted_of_placed`: a new clause takes room that only blank lines gave, so the other lines stay.
  2. `lt_firstBlank?_iff`: when the first blank line stands behind a given line.
  3. `merge_behind_iff`: when a new clause comes behind the package line, and that it may come before.
-/

namespace RowTypes.Imports

open Text

/-- The lines `widened` are `lines` with a clause for the packages between `before` and `after`, where
at most blank lines stood. A blank line comes before the clause, and one may come behind it. -/
structure Inserted (lines : List String) (packages : Packages) (before after widened : List String) :
    Prop where
  room : ∃ room, lines = before ++ (room ++ after) ∧ ∀ line ∈ room, isAllWhite line
  clause : ∃ gap, (gap = [] ∨ gap = [""]) ∧
    widened = before ++ ("" :: (render (addPackages [] packages) ++ gap) ++ after)

section
variable {lines widened before old new after pre post : List String} {line : String}
  {packages : Packages}

/-! ## What stays -/

theorem Inserted.sublist (h : Inserted lines packages before after widened) :
    (lines.filter fun line => !isAllWhite line).Sublist widened := by
  obtain ⟨room, hlines, hroom⟩ := h.room
  obtain ⟨gap, -, rfl⟩ := h.clause
  have hnone : (room.filter fun line => !isAllWhite line) = [] := by
    simpa [List.filter_eq_nil_iff] using hroom
  rw [hlines, List.filter_append, List.filter_append, hnone, List.nil_append]
  apply List.Sublist.append List.filter_sublist
  exact List.filter_sublist.trans (List.sublist_append_right _ _)

/-- A stretch that makes room for a new clause is blank. -/
theorem inserted_of_placed (hfind : find? lines = .ok none)
    (h : Placed lines packages before old new after) (hlines : lines = before ++ (old ++ after)) :
    Inserted lines packages before after (before ++ (new ++ after)) := by
  have hclause : clauseLines lines packages = render (addPackages [] packages) := by
    rw [clauseLines, clauseEntries, hfind]
  cases h with
  | clause found =>
    rw [hfind] at found
    simp at found
  | @blank line _ _ _ _ white =>
    exact ⟨⟨[line], hlines, by simpa using white⟩, [""], .inr rfl, by simp [hclause]⟩
  | first => exact ⟨⟨[], hlines, by simp⟩, [""], .inr rfl, by simp [hclause]⟩
  | short => exact ⟨⟨[], hlines, by simp⟩, [], .inl rfl, by simp [hclause]⟩

/-! ## The first blank line -/

theorem firstBlank?_cons (first : String) (rest : List String) : firstBlank? (first :: rest) =
    ((rest.take (lookahead - 1)).findIdx? isAllWhite).map (· + 1) :=
  rfl

theorem findIdx?_append_cons (hline : ¬isAllWhite line) :
    (pre ++ line :: post).findIdx? isAllWhite = (pre.findIdx? isAllWhite).or
      ((post.findIdx? isAllWhite).map (· + (pre.length + 1))) := by
  rw [List.findIdx?_append, List.findIdx?_cons, if_neg hline, Option.map_map]
  simp [Function.comp_def, Nat.add_assoc, Nat.add_comm 1]

theorem length_lt_findIdx?_iff (hline : ¬isAllWhite line) (n : Nat) :
    (∃ i, ((pre ++ line :: post).take n).findIdx? isAllWhite = some i ∧ pre.length < i) ↔
      (∀ other ∈ pre, ¬isAllWhite other) ∧
        ∃ other ∈ post.take (n - (pre.length + 1)), isAllWhite other := by
  by_cases hn : pre.length + 1 ≤ n
  · obtain ⟨m, rfl⟩ := Nat.exists_eq_add_of_le hn
    have htake : (pre ++ line :: post).take (pre.length + 1 + m) = pre ++ line :: post.take m := by
      rw [Nat.add_assoc, Nat.add_comm 1, List.take_length_add_append, List.take_succ_cons]
    rw [htake, findIdx?_append_cons hline, Nat.add_sub_cancel_left]
    cases hpre : pre.findIdx? isAllWhite with
    | some i =>
      obtain ⟨hlt, hwhite, -⟩ := List.findIdx?_eq_some_iff_getElem.mp hpre
      refine iff_of_false ?_ fun hnone => hnone.1 _ (List.getElem_mem hlt) hwhite
      simp only [Option.some_or, Option.some.injEq, exists_eq_left']
      omega
    | none =>
      have hnone : ∀ other ∈ pre, ¬isAllWhite other := by
        simpa [List.findIdx?_eq_none_iff] using hpre
      have hsome : (∃ other ∈ post.take m, isAllWhite other) ↔
          ((post.take m).findIdx? isAllWhite).isSome := by
        rw [List.findIdx?_isSome, List.any_eq_true]
      rw [hsome, Option.isSome_iff_exists, Option.none_or]
      constructor
      · rintro ⟨i, hi, -⟩
        obtain ⟨k, hk, -⟩ := Option.map_eq_some_iff.mp hi
        exact ⟨hnone, k, hk⟩
      · rintro ⟨-, k, hk⟩
        exact ⟨k + (pre.length + 1), by rw [hk]; rfl, by omega⟩
  · refine iff_of_false ?_ ?_
    · rintro ⟨i, hi, hlt⟩
      obtain ⟨hlength, -⟩ := List.findIdx?_eq_some_iff_getElem.mp hi
      rw [List.length_take] at hlength
      omega
    · rw [Nat.sub_eq_zero_of_le (by omega)]
      simp

/-- The first blank line stands behind `line`, which is not the first one. -/
theorem lt_firstBlank?_iff {first : String} (hline : ¬isAllWhite line) :
    (∃ index, firstBlank? (first :: (pre ++ line :: post)) = some index ∧ pre.length + 1 < index) ↔
      (∀ other ∈ pre, ¬isAllWhite other) ∧
        ∃ other ∈ post.take (lookahead - (pre.length + 2)), isAllWhite other := by
  have hwindow : lookahead - (pre.length + 2) = lookahead - 1 - (pre.length + 1) := by omega
  rw [firstBlank?_cons, hwindow, ← length_lt_findIdx?_iff hline]
  constructor
  · rintro ⟨index, hindex, hlt⟩
    obtain ⟨i, hi, rfl⟩ := Option.map_eq_some_iff.mp hindex
    exact ⟨i, hi, by omega⟩
  · rintro ⟨i, hi, hlt⟩
    exact ⟨i + 1, by rw [hi]; rfl, by omega⟩

/-! ## The package line -/

theorem not_isAllWhite_of_package (h : "package ".toList <+: line.toList) : ¬isAllWhite line := by
  intro hwhite
  have hp : isWhite 'p' := List.all_eq_true.mp hwhite 'p' (h.subset (by decide))
  exact absurd hp (by decide)

/-- A new clause comes behind `line` if that is the first line, or the first blank line that is looked
for is behind it. -/
theorem Placed.length_lt_iff (h : Placed (pre ++ line :: post) packages before old new after)
    (hfind : find? (pre ++ line :: post) = .ok none) (hline : ¬isAllWhite line) :
    pre.length < before.length ↔ pre = [] ∨ ((∀ other ∈ pre.tail, ¬isAllWhite other) ∧
      ∃ other ∈ post.take (lookahead - (pre.length + 1)), isAllWhite other) := by
  have hone (index : Nat) (hblank : firstBlank? (pre ++ line :: post) = some index) : 0 < index :=
    (firstBlank?_eq_some hblank).1
  have hbehind (hpre : pre ≠ []) :
      (∃ index, firstBlank? (pre ++ line :: post) = some index ∧ pre.length < index) ↔
        (∀ other ∈ pre.tail, ¬isAllWhite other) ∧
          ∃ other ∈ post.take (lookahead - (pre.length + 1)), isAllWhite other := by
    obtain ⟨first, rest, rfl⟩ := List.exists_cons_of_ne_nil hpre
    exact lt_firstBlank?_iff hline
  cases h with
  | clause found =>
    rw [hfind] at found
    simp at found
  | blank _ firstBlank =>
    by_cases hpre : pre = []
    · simp [hpre, hone _ firstBlank]
    · rw [← hbehind hpre, firstBlank]
      simp [hpre]
  | first _ noBlank =>
    by_cases hpre : pre = []
    · simp [hpre]
    · rw [← hbehind hpre, noBlank]
      simp [hpre]
  | short _ short =>
    have hpre : pre = [] := by
      rw [← List.length_eq_zero_iff]
      simp at short
      omega
    simp [hpre]

/-- A new clause is put where at most a blank line stood, and all other lines stay in their order. It
comes behind the package line if that is the first line, or if a blank line stands behind it among the
first lines and none between it and the first line; else it comes before. -/
theorem merge_behind_iff (pre post : List String) (line : String) (packages : Packages)
    (hpackage : "package ".toList <+: line.toList)
    (hfind : find? (pre ++ line :: post) = .ok none) (hne : packages ≠ []) :
    ∃ before after widened, merge (pre ++ line :: post) packages = .ok widened ∧
      Inserted (pre ++ line :: post) packages before after widened ∧
      ((pre ++ line :: post).filter fun line => !isAllWhite line).Sublist widened ∧
      (pre.length < before.length ↔ pre = [] ∨ ((∀ other ∈ pre.tail, ¬isAllWhite other) ∧
        ∃ other ∈ post.take (lookahead - (pre.length + 1)), isAllWhite other)) := by
  obtain ⟨before, old, new, after, hplaced, hlines, hmerge⟩ := exists_of_insertion hne hfind
  have hinserted := inserted_of_placed hfind hplaced hlines
  exact ⟨before, after, _, hmerge, hinserted, hinserted.sublist,
    hplaced.length_lt_iff hfind (not_isAllWhite_of_package hpackage)⟩

/-- A comment stands before the package line, and a blank line behind it. -/
theorem merge_behind_iff_comment :
    "package ".toList <+: "package p".toList ∧
    find? (["// licence"] ++ "package p" :: ["", "var x int"]) = .ok none ∧
    ∃ before after widened,
      merge (["// licence"] ++ "package p" :: ["", "var x int"]) ["time"] = .ok widened ∧
      Inserted (["// licence"] ++ "package p" :: ["", "var x int"]) ["time"] before after widened ∧
      1 < before.length := by
  obtain ⟨before, after, widened, hmerge, hinserted, -, hbehind⟩ :=
    merge_behind_iff ["// licence"] ["", "var x int"] "package p" ["time"] (by decide) rfl (by decide)
  exact ⟨by decide, rfl, before, after, widened, hmerge, hinserted,
    hbehind.mpr (.inr ⟨by decide, "", by decide, by decide⟩)⟩

/-- Between a comment and the package line, a blank line makes room for the clause: then it comes before
the package line, which is the first line that is neither blank nor a comment. -/
theorem merge_before_package :
    (∀ other ∈ ["// licence", ""], isCommentOrBlank (trim other.toList)) ∧
    "package ".toList <+: "package p".toList ∧
    find? ["// licence", "", "package p"] = .ok none ∧
    ¬∃ widened, merge ["// licence", "", "package p"] ["time"] = .ok widened ∧
      ∀ i j : Nat, widened[i]? = some "package p" → widened[j]? = some "import \"time\"" → i < j := by
  refine ⟨by decide, by decide, rfl, ?_⟩
  rintro ⟨widened, hmerge, horder⟩
  have hwidened : widened = ["// licence", "", "import \"time\"", "", "package p"] := by
    rw [show merge ["// licence", "", "package p"] ["time"] =
      .ok ["// licence", "", "import \"time\"", "", "package p"] from rfl] at hmerge
    cases hmerge
    rfl
  subst hwidened
  have hlt : 4 < 2 := horder 4 2 rfl rfl
  omega

end

end RowTypes.Imports
