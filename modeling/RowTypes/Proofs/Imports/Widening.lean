import RowTypes.Proofs.Imports.Reading

/-!
Widening an import clause. Adding packages changes one stretch of lines: a clause that is there, or
the blank line that makes room for a new one. All other lines stay.

What is proved:
  1. `exists_of_insertion`, `exists_of_merge`: the stretch of lines that a new clause or a widening
     replaces, and what replaces it.
  2. `merge_append_render_iff`: a clause that was written is found again if it begins early enough, and
     then it is widened to itself unless some of its entries are read as comments.
-/

namespace RowTypes.Imports

open Text ImportEntries

/-- The line on which the clause begins once packages were added. -/
def clauseLine (lines : List String) : Nat :=
  match find? lines with
  | .ok (some clause) => clause.start
  | _ => (firstBlank? lines).getD 1 + 1

/-- The entries of the clause once packages were added. -/
def clauseEntries (lines : List String) (packages : Packages) : ImportEntries :=
  match find? lines with
  | .ok (some clause) => addPackages clause.entries packages
  | _ => addPackages [] packages

/-- The lines of the clause once packages were added. -/
def clauseLines (lines : List String) (packages : Packages) : List String :=
  render (clauseEntries lines packages)

/-- A new clause, with a blank line on both sides. -/
def framed (packages : Packages) : List String :=
  [""] ++ render (addPackages [] packages) ++ [""]

/-- The stretch of lines that makes room for a clause: the lines before it, its own lines, those that
replace them, and the lines after it. -/
inductive Placed (lines : List String) (packages : Packages) :
    List String → List String → List String → List String → Prop where
  | clause {clause : Clause} {before old after : List String}
      (found : find? lines = .ok (some clause)) (start : clause.start = before.length)
      (stop : clause.stop = before.length + old.length)
      (noneBefore : ∀ line ∈ before, ¬isImportLine line) (isClause : IsClause old)
      (early : before.length < lookahead) :
      Placed lines packages before old (clauseLines lines packages) after
  | blank {line : String} {before after : List String} (notFound : find? lines = .ok none)
      (firstBlank : firstBlank? lines = some before.length) (white : isAllWhite line) :
      Placed lines packages before [line] ([""] ++ clauseLines lines packages ++ [""]) after
  | first {line : String} {after : List String} (notFound : find? lines = .ok none)
      (noBlank : firstBlank? lines = none) :
      Placed lines packages [line] [] ([""] ++ clauseLines lines packages ++ [""]) after
  | short (notFound : find? lines = .ok none) (short : lines.length ≤ 1) :
      Placed lines packages lines [] ([""] ++ clauseLines lines packages) []

section
variable {lines widened before old new after : List String} {packages : Packages}
  {entries : ImportEntries}

/-! ## The entries of a widened clause -/

/-- Packages whose paths can be written between quotes on one line. -/
def Plain (packages : Packages) : Prop :=
  ∀ path ∈ packages, '"' ∉ path.toList ∧ '\n' ∉ path.toList

theorem wellRead_addPackages (h : WellRead entries) (hplain : Plain packages) :
    WellRead (addPackages entries packages) := by
  have hread : InOrder Readable (addPackages entries packages) :=
    InOrder.addPackages ⟨h.sorted, h.readable⟩ fun path hpath =>
      readable_plain (hplain path hpath).1 (hplain path hpath).2
  exact ⟨hread.sorted, hread.each⟩

theorem wellRead_clauseEntries (hlines : CleanLines lines) (hplain : Plain packages) :
    WellRead (clauseEntries lines packages) := by
  unfold clauseEntries
  split
  · next clause hfind => exact wellRead_addPackages (exists_of_find? hlines hfind).1 hplain
  · exact wellRead_addPackages wellRead_nil hplain

theorem imported_clauseEntries (lines : List String) (packages : Packages) :
    Imported (clauseEntries lines packages) packages := by
  unfold clauseEntries
  split <;> exact imported_addPackages _ _

theorem ne_nil_of_imported (hne : packages ≠ []) (h : Imported entries packages) : entries ≠ [] := by
  rintro rfl
  obtain ⟨path, hpath⟩ := List.exists_mem_of_ne_nil packages hne
  obtain ⟨entry, hentry, -⟩ := h path hpath
  simp at hentry

theorem exists_of_render (h : entries ≠ []) :
    ∃ first others, render entries = first :: others ∧ first.toList.head? = some 'i' := by
  match entries with
  | [] => exact absurd rfl h
  | [entry] => exact ⟨_, [], rfl, by simp⟩
  | first :: second :: rest => exact ⟨_, _, rfl, by decide⟩

theorem render_ne_nil (h : entries ≠ []) : render entries ≠ [] := by
  obtain ⟨first, others, hrender, -⟩ := exists_of_render h
  simp [hrender]

/-! ## Stretches -/

theorem replaceLines_append (before old new after : List String) :
    replaceLines (before ++ (old ++ after)) before.length (before.length + old.length) new =
      before ++ (new ++ after) := by
  rw [replaceLines, List.take_left, ← List.append_assoc before old,
    List.drop_left' List.length_append, List.append_assoc]

theorem firstBlank?_eq_some {index : Nat} (h : firstBlank? lines = some index) :
    1 ≤ index ∧ index < lookahead ∧ ∃ hlt : index < lines.length, isAllWhite lines[index] := by
  obtain ⟨i, hi, rfl⟩ := Option.map_eq_some_iff.mp h
  obtain ⟨hlt, hwhite, -⟩ := List.findIdx?_eq_some_iff_getElem.mp hi
  have hlen : i + 1 < min lookahead lines.length := by
    simp only [List.length_drop, List.length_take] at hlt
    omega
  refine ⟨by omega, by omega, by omega, ?_⟩
  simpa [Nat.add_comm 1] using hwhite

/-- The stretch of lines that makes room for a new clause. -/
theorem exists_of_insertion (hne : packages ≠ []) (hfind : find? lines = .ok none) :
    ∃ before old new after, Placed lines packages before old new after ∧
      lines = before ++ (old ++ after) ∧ merge lines packages = .ok (before ++ (new ++ after)) := by
  have hempty : ¬packages.isEmpty := by simpa using hne
  have hentries : addPackages [] packages = clauseEntries lines packages := by
    rw [clauseEntries, hfind]
  rw [merge, if_neg hempty, hfind]
  dsimp only
  rw [insertClause, hentries, ← clauseLines]
  by_cases hshort : lines.length ≤ 1
  · refine ⟨lines, [], _, [], .short hfind hshort, by simp, ?_⟩
    simp [hshort]
  · rw [if_neg hshort]
    dsimp only
    cases hblank : firstBlank? lines with
    | some index =>
      obtain ⟨hone, hearly, hlt, hwhite⟩ := firstBlank?_eq_some hblank
      have hlength : (lines.take index).length = index := by
        rw [List.length_take]
        omega
      refine ⟨lines.take index, [lines[index]], _, lines.drop (index + 1),
        .blank hfind (by rw [hlength]; exact hblank) hwhite, ?_, ?_⟩
      · rw [List.singleton_append, ← List.drop_eq_getElem_cons hlt, List.take_append_drop]
      · simp [replaceLines]
    | none =>
      match hlist : lines with
      | first :: rest =>
        exact ⟨[first], [], _, rest, .first hfind hblank, rfl, by simp [replaceLines]⟩
      | [] => simp at hshort

/-- The stretch of lines that a widening replaces. -/
theorem exists_of_merge (hlines : CleanLines lines) (hne : packages ≠ [])
    (h : merge lines packages = .ok widened) :
    ∃ before old new after, Placed lines packages before old new after ∧
      lines = before ++ (old ++ after) ∧ widened = before ++ (new ++ after) := by
  cases hfind : find? lines with
  | error e =>
    rw [merge, if_neg (by simpa using hne), hfind] at h
    simp at h
  | ok found =>
    cases found with
    | some clause =>
      rw [merge, if_neg (by simpa using hne), hfind] at h
      cases h
      obtain ⟨-, hearly, before, old, after, hsplit, hbefore, hold, hstart, hstop⟩ :=
        exists_of_find? hlines hfind
      refine ⟨before, old, _, after, .clause hfind hstart hstop hbefore hold (hstart ▸ hearly),
        hsplit, ?_⟩
      have hentries : clauseEntries lines packages = addPackages clause.entries packages := by
        rw [clauseEntries, hfind]
      rw [clauseLines, hentries, hstart, hstop, hsplit]
      exact replaceLines_append _ _ _ _
    | none =>
      obtain ⟨before, old, new, after, hplaced, hsplit, hmerge⟩ := exists_of_insertion hne hfind
      rw [hmerge] at h
      cases h
      exact ⟨before, old, new, after, hplaced, hsplit, rfl⟩

theorem not_isImportLine_of_find? (h : find? lines = .ok none) :
    ∀ line ∈ lines.take lookahead, ¬isImportLine line := by
  unfold find? at h
  split at h
  · next hnone =>
    intro line hline
    simpa using List.findIdx?_eq_none_iff.mp hnone line hline
  · next start hstart =>
    obtain ⟨hlt, -, -⟩ := List.findIdx?_eq_some_iff_getElem.mp hstart
    rw [List.length_take] at hlt
    rw [List.drop_eq_getElem_cons (by omega)] at h
    dsimp only at h
    split at h <;> simp at h

theorem not_isImportLine_of_new (start : List String) (h : find? lines = .ok none)
    (hstart : start ⊆ lines.take lookahead) : ∀ line ∈ start ++ [""], ¬isImportLine line := by
  intro line hline
  rcases List.mem_append.mp hline with hmem | hmem
  · exact not_isImportLine_of_find? h line (hstart hmem)
  · rw [List.mem_singleton.mp hmem]
    decide

/-- The clause as it is written stands on the line `clauseLine`, and none begins before. -/
theorem exists_render_of_placed (hne : lines ≠ []) (hlines : lines = before ++ (old ++ after))
    (h : Placed lines packages before old new after) :
    ∃ start rest, before ++ (new ++ after) = start ++ (clauseLines lines packages ++ rest) ∧
      start.length = clauseLine lines ∧ ∀ line ∈ start, ¬isImportLine line := by
  cases h with
  | clause found start stop noneBefore isClause early =>
    exact ⟨before, after, rfl, by rw [clauseLine, found]; exact start.symm, noneBefore⟩
  | blank notFound firstBlank white =>
    refine ⟨before ++ [""], [""] ++ after, by simp, ?_, ?_⟩
    · rw [clauseLine, notFound, firstBlank]
      simp
    · apply not_isImportLine_of_new _ notFound
      obtain ⟨-, hearly, -⟩ := firstBlank?_eq_some firstBlank
      rw [hlines, List.take_append, List.take_of_length_le (Nat.le_of_lt hearly)]
      exact List.subset_append_left _ _
  | @first line after notFound noBlank =>
    refine ⟨[line, ""], [""] ++ after, by simp, ?_, ?_⟩
    · rw [clauseLine, notFound, noBlank]
      rfl
    · exact not_isImportLine_of_new [line] notFound (by rw [hlines]; simp [lookahead])
  | short notFound short =>
    obtain ⟨line, rfl⟩ : ∃ line, lines = [line] := by
      match lines, hne, short with
      | [line], _, _ => exact ⟨line, rfl⟩
    refine ⟨[line, ""], [], by simp, ?_, ?_⟩
    · rw [clauseLine, notFound]
      rfl
    · exact not_isImportLine_of_new [line] notFound (by simp [lookahead])

theorem Placed.exists_head (hne : packages ≠ []) (h : Placed lines packages before old new after) :
    ∃ first others, new = first :: others ∧ first.toList.head? ∈ [none, some 'i'] := by
  cases h with
  | clause =>
    obtain ⟨first, others, hrender, hhead⟩ :=
      exists_of_render (ne_nil_of_imported hne (imported_clauseEntries lines packages))
    exact ⟨first, others, hrender, by simp [hhead]⟩
  | blank | first | short => exact ⟨"", _, rfl, by decide⟩

theorem Placed.clauseLine_bounds (hne : packages ≠ []) (hlines : lines ≠ [])
    (h : Placed lines packages before old new after) :
    before.length ≤ clauseLine lines ∧ clauseLine lines < before.length + new.length := by
  have hpos : 0 < (clauseLines lines packages).length := List.length_pos_iff.mpr
    (render_ne_nil (ne_nil_of_imported hne (imported_clauseEntries lines packages)))
  cases h with
  | clause found start =>
    simp only [clauseLine, found]
    omega
  | blank notFound firstBlank =>
    simp only [clauseLine, notFound, firstBlank, Option.getD_some, List.length_append,
      List.length_singleton]
    omega
  | first notFound noBlank =>
    simp only [clauseLine, notFound, noBlank, Option.getD_none, List.length_append,
      List.length_singleton]
    omega
  | short notFound short =>
    obtain ⟨line, rfl⟩ : ∃ line, lines = [line] :=
      List.length_eq_one_iff.mp (by have := List.length_pos_iff.mpr hlines; omega)
    have hline : clauseLine [line] = 2 := by
      rw [clauseLine, notFound]
      rfl
    simp only [hline, List.length_append, List.length_singleton]
    omega

/-! ## New lines -/

/-- The line is empty or begins as the lines of a clause do. -/
def IsWritten (line : String) : Prop :=
  line.toList.head? ∈ [none, some 'i', some '\t', some ')']

instance (line : String) : Decidable (IsWritten line) :=
  inferInstanceAs (Decidable (_ ∈ _))

theorem mem_render {line : String} (h : line ∈ render entries) : line = "import (" ∨ line = ")" ∨
    ∃ entry ∈ entries, line = "import " ++ entry.written ∨ line = "\t" ++ entry.written := by
  match entries with
  | [] => simp [render] at h
  | [entry] => exact .inr (.inr ⟨entry, by simp, .inl (List.mem_singleton.mp h)⟩)
  | first :: second :: rest =>
    simp only [render, List.mem_append, List.mem_singleton] at h
    rcases h with (hopen | hmem) | hclose
    · exact .inl hopen
    · obtain ⟨entry, hentry, rfl⟩ := List.mem_map.mp hmem
      exact .inr (.inr ⟨entry, hentry, .inr rfl⟩)
    · exact .inr (.inl hclose)

theorem isWritten_of_mem_render {line : String} (h : line ∈ render entries) : IsWritten line := by
  rcases mem_render h with rfl | rfl | ⟨entry, -, rfl | rfl⟩
  · decide
  · decide
  · simp [IsWritten]
  · simp [IsWritten]

theorem Placed.isWritten (h : Placed lines packages before old new after) {line : String}
    (hline : line ∈ new) : IsWritten line := by
  cases h with
  | clause => exact isWritten_of_mem_render hline
  | blank | first =>
    simp only [List.mem_append, List.mem_singleton] at hline
    rcases hline with (rfl | hmem) | rfl
    · decide
    · exact isWritten_of_mem_render hmem
    · decide
  | short =>
    simp only [List.mem_append, List.mem_singleton] at hline
    rcases hline with rfl | hmem
    · decide
    · exact isWritten_of_mem_render hmem

theorem Placed.length_lt (h : Placed lines packages before old new after)
    (hnotFound : find? lines = .ok none) : old.length < new.length := by
  cases h with
  | clause found => simp [found] at hnotFound
  | blank => simp
  | first => simp
  | short => simp

theorem cleanLines_render (h : AllReadable entries) : CleanLines (render entries) := by
  have hwritten : ∀ entry ∈ entries, '\n' ∉ entry.written.toList := by
    intro entry hentry
    obtain ⟨name, path, hname, -, -, hpath, rfl⟩ := h entry hentry
    have hfeed : '\n' ∉ name := fun hmem => hname '\n' hmem (by decide)
    rw [written_entryOf, aliasPart]
    split <;> simp [hpath, hfeed]
  intro line hline
  rcases mem_render hline with rfl | rfl | ⟨entry, hentry, rfl | rfl⟩
  · decide
  · decide
  · simpa using hwritten entry hentry
  · simpa using hwritten entry hentry

theorem Placed.cleanLines (h : Placed lines packages before old new after)
    (hlines : CleanLines lines) (hplain : Plain packages) : CleanLines new := by
  have hrender : CleanLines (clauseLines lines packages) :=
    cleanLines_render (wellRead_clauseEntries hlines hplain).readable
  intro line hline
  cases h with
  | clause => exact hrender line hline
  | blank | first =>
    simp only [List.mem_append, List.mem_singleton] at hline
    rcases hline with (rfl | hmem) | rfl
    · decide
    · exact hrender line hmem
    · decide
  | short =>
    simp only [List.mem_append, List.mem_singleton] at hline
    rcases hline with rfl | hmem
    · decide
    · exact hrender line hmem

/-! ## A clause that was written -/

/-- No entry is lost when the clause is read again. -/
def Rereadable (entries : ImportEntries) : Prop :=
  entries.length ≤ 1 ∨ ∀ entry ∈ entries, ¬Commented entry

instance (entries : ImportEntries) : Decidable (Rereadable entries) :=
  inferInstanceAs (Decidable (_ ∨ _))

theorem render_inj {others : ImportEntries} (hlength : 1 < entries.length)
    (h : render others = render entries) :
    others.map (·.written.toList) = entries.map (·.written.toList) := by
  match others, entries with
  | _, [] => simp at hlength
  | _, [_] => simp at hlength
  | [], first :: second :: rest => simp [render] at h
  | [_], first :: second :: rest => simp [render] at h
  | first' :: second' :: rest', first :: second :: rest =>
    have hlines : (first' :: second' :: rest').map (fun entry => "\t" ++ entry.written) =
        (first :: second :: rest).map (fun entry => "\t" ++ entry.written) :=
      List.append_cancel_left (List.append_cancel_right h)
    have htails := congrArg (List.map fun line => line.toList.tail) hlines
    simpa [Function.comp_def] using htails

theorem not_commented_plain (path : String) : ¬Commented (plain path) := by
  rintro ⟨rest, hrest⟩
  simp [plain] at hrest

/-- The clause is written anew as it stands iff no entry of it is lost. -/
theorem render_addPackages_kept_iff (himported : Imported entries packages) :
    render (addPackages (kept entries) packages) = render entries ↔ Rereadable entries := by
  constructor
  · intro h
    by_cases hlength : entries.length ≤ 1
    · exact .inl hlength
    · right
      intro entry hentry hcommented
      have hwritten := render_inj (by omega) h
      have hmem : entry.written.toList ∈ entries.map (·.written.toList) :=
        List.mem_map_of_mem hentry
      rw [← hwritten] at hmem
      obtain ⟨other, hother, hsame⟩ := List.mem_map.mp hmem
      have hcomment : Commented other := by
        rw [Commented, hsame]
        exact hcommented
      rcases mem_addPackages hother with hkept | ⟨path, -, rfl⟩
      · rw [kept, if_neg hlength] at hkept
        simpa [hcomment] using (List.mem_filter.mp hkept).2
      · exact not_commented_plain path hcomment
  · intro h
    have hkept : kept entries = entries := by
      rcases h with hlength | hnone
      · rw [kept, if_pos hlength]
      · exact kept_of_uncommented hnone
    rw [hkept, addPackages_of_imported himported]

theorem merge_ne_of_not_found (hlines : CleanLines lines) (hne : packages ≠ [])
    (h : find? lines = .ok none) : merge lines packages ≠ .ok lines := by
  intro hmerge
  obtain ⟨before, old, new, after, hplaced, hold, hnew⟩ := exists_of_merge hlines hne hmerge
  have hlt := hplaced.length_lt h
  have hlength := congrArg List.length (hold.symm.trans hnew)
  simp only [List.length_append] at hlength
  omega

/-- Lines with a clause that was written are left alone iff it begins early enough and no entry of it
is lost. -/
theorem merge_append_render_iff {start rest : List String}
    (hstart : ∀ line ∈ start, ¬isImportLine line) (hread : WellRead entries)
    (himported : Imported entries packages) (hne : packages ≠ [])
    (hclean : CleanLines (start ++ (render entries ++ rest))) :
    merge (start ++ (render entries ++ rest)) packages = .ok (start ++ (render entries ++ rest)) ↔
      start.length < lookahead ∧ Rereadable entries := by
  have hempty : ¬packages.isEmpty := by simpa using hne
  have hfind := find?_append_render hstart hread.legible (ne_nil_of_imported hne himported) rest
  by_cases hlt : start.length < lookahead
  · rw [if_pos hlt] at hfind
    have hmerge : merge (start ++ (render entries ++ rest)) packages =
        .ok (start ++ (render (addPackages (kept entries) packages) ++ rest)) := by
      rw [merge, if_neg hempty, hfind]
      exact congrArg Except.ok (replaceLines_append _ _ _ _)
    rw [hmerge, ← render_addPackages_kept_iff himported]
    simp [hlt]
  · rw [if_neg hlt] at hfind
    simp [hlt, merge_ne_of_not_found hclean hne hfind]

end

end RowTypes.Imports
