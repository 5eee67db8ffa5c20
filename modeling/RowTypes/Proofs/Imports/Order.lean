import RowTypes.Proofs.Imports.Widening

/-!
Clauses that are widened again and again. A clause is found by its own lines and those before it, so
it stays the same clause whatever changes behind it; and packages may be added in any order.

What is proved:
  1. `isUnion_addPackages`, `addPackages_congr`: what adding packages gives, in whatever order.
  2. `exists_opening`: a clause that is found is found whatever follows it.
  3. `Opening.merge_eq`, `Opening.widen`: widening such a clause leaves one.
-/

namespace RowTypes.Imports

open Text ImportEntries

section
variable {entry other : ImportEntry} {entries all others : ImportEntries} {packages more : Packages}

/-! ## Unions -/

/-- All of the entries, and plain ones for the packages that they lack, in order. -/
structure IsUnion (entries : ImportEntries) (packages : Packages) (all : ImportEntries) : Prop where
  sorted : Sorted all
  mem_iff : ∀ entry, entry ∈ all ↔ entry ∈ entries ∨
    ∃ path ∈ packages, entry = plain path ∧ ∀ other ∈ entries, other.path ≠ path

theorem nodup_of_inOrder (h : Sorted entries) : entries.Nodup := by
  refine List.Pairwise.imp (fun hlt heq => ?_) h
  rw [heq] at hlt
  exact String.lt_irrefl _ hlt

theorem IsUnion.unique (h : IsUnion entries packages all) (h' : IsUnion entries packages others) :
    all = others := by
  have hperm : all.Perm others :=
    (List.perm_ext_iff_of_nodup (nodup_of_inOrder h.sorted) (nodup_of_inOrder h'.sorted)).mpr
      fun entry => (h.mem_iff entry).trans (h'.mem_iff entry).symm
  exact hperm.eq_of_pairwise
    (fun first second _ _ hlt hgt => absurd hgt (String.lt_asymm hlt)) h.sorted h'.sorted

theorem IsUnion.congr (h : IsUnion entries packages all)
    (hsame : ∀ path, path ∈ packages ↔ path ∈ more) : IsUnion entries more all where
  sorted := h.sorted
  mem_iff := fun entry => by
    rw [h.mem_iff]
    simp only [hsame]

theorem mem_insert_of_new (hnew : ∀ other ∈ entries, other.path ≠ entry.path) :
    other ∈ ImportEntries.insert entry entries ↔ other = entry ∨ other ∈ entries := by
  induction entries with
  | nil => exact List.mem_cons
  | cons head rest ih =>
    obtain ⟨hhead, hrest⟩ := List.forall_mem_cons.mp hnew
    rw [ImportEntries.insert, if_neg (Ne.symm hhead)]
    split
    · exact List.mem_cons
    · rw [List.mem_cons, ih hrest, List.mem_cons]
      exact or_left_comm

theorem mem_addPackages_iff : entry ∈ addPackages entries packages ↔ entry ∈ entries ∨
    ∃ path ∈ packages, entry = plain path ∧ ∀ other ∈ entries, other.path ≠ path := by
  induction packages generalizing entries with
  | nil => simp [addPackages]
  | cons path packages ih =>
    rw [addPackages_cons, List.exists_mem_cons_iff, or_left_comm]
    split
    · next hany =>
      obtain ⟨found, hfound, heq⟩ := List.any_eq_true.mp hany
      rw [ih]
      exact ⟨.inr, fun h => h.resolve_left fun hnone => hnone.2 found hfound (beq_iff_eq.mp heq)⟩
    · next hany =>
      have hnew : ∀ other ∈ entries, other.path ≠ path := by simpa using hany
      have hmem (other : ImportEntry) : other ∈ ImportEntries.insert (plain path) entries ↔
          other = plain path ∨ other ∈ entries := mem_insert_of_new hnew
      simp only [ih, hmem, or_assoc, forall_eq_or_imp]
      constructor
      · rintro (hplain | hin | ⟨package, hpackage, hplain, -, hothers⟩)
        · exact .inl ⟨hplain, hnew⟩
        · exact .inr (.inl hin)
        · exact .inr (.inr ⟨package, hpackage, hplain, hothers⟩)
      · rintro (⟨hplain, -⟩ | hin | ⟨package, hpackage, hplain, hothers⟩)
        · exact .inl hplain
        · exact .inr (.inl hin)
        · by_cases heq : path = package
          · exact .inl (heq ▸ hplain)
          · exact .inr (.inr ⟨package, hpackage, hplain, heq, hothers⟩)

theorem isUnion_addPackages (h : Sorted entries) (packages : Packages) :
    IsUnion entries packages (addPackages entries packages) where
  sorted := sorted_addPackages h packages
  mem_iff := fun _ => mem_addPackages_iff

/-- Packages are added in any order, and any number of times. -/
theorem addPackages_congr (h : Sorted entries) (hsame : ∀ path, path ∈ packages ↔ path ∈ more) :
    addPackages entries packages = addPackages entries more :=
  ((isUnion_addPackages h packages).congr hsame).unique (isUnion_addPackages h more)

/-! ## Clauses and what follows them -/

theorem parseBracketed_local {lines : List String} {start index : Nat} {clause : Clause}
    (h : parseBracketed start index entries lines = .ok clause) :
    ∃ own after, lines = own ++ after ∧ clause.stop = index + own.length ∧
      ∀ more, parseBracketed start index entries (own ++ more) = .ok clause := by
  induction lines generalizing index entries with
  | nil => simp [parseBracketed] at h
  | cons line lines ih =>
    unfold parseBracketed at h
    dsimp only at h
    split at h
    · next hclose =>
      cases h
      refine ⟨[line], lines, rfl, rfl, fun more => ?_⟩
      rw [List.singleton_append, parseBracketed]
      simp only [if_pos hclose]
    · next hopen =>
      have hmore {found : ImportEntries} (hstep : ∀ more,
          parseBracketed start index entries (line :: more) =
            parseBracketed start (index + 1) found more)
          (h : parseBracketed start (index + 1) found lines = .ok clause) :
          ∃ own after, line :: lines = own ++ after ∧ clause.stop = index + own.length ∧
            ∀ more, parseBracketed start index entries (own ++ more) = .ok clause := by
        obtain ⟨own, after, rfl, hstop, hread⟩ := ih h
        refine ⟨line :: own, after, rfl, by rw [hstop, List.length_cons]; omega, fun more => ?_⟩
        rw [List.cons_append, hstep, hread more]
      split at h
      · next hcomment =>
        refine hmore (fun more => ?_) h
        rw [parseBracketed]
        simp only [if_neg hopen, if_pos hcomment]
      · next hcomment =>
        split at h
        · simp at h
        · next entry hentry =>
          refine hmore (fun more => ?_) h
          rw [parseBracketed]
          simp only [if_neg hopen, if_neg hcomment, hentry]

theorem parseClause_local {start : Nat} {line : String} {lines : List String} {clause : Clause}
    (h : parseClause start line lines = .ok clause) :
    ∃ own after, lines = own ++ after ∧ clause.stop = start + (own.length + 1) ∧
      ∀ more, parseClause start line (own ++ more) = .ok clause := by
  unfold parseClause at h
  dsimp only at h
  split at h
  · next hopen =>
    obtain ⟨own, after, rfl, hstop, hread⟩ := parseBracketed_local h
    refine ⟨own, after, rfl, by omega, fun more => ?_⟩
    rw [parseClause]
    simp only [if_pos hopen, hread more]
  · next hopen =>
    refine ⟨[], lines, rfl, ?_, fun more => ?_⟩
    · split at h <;> cases h
      rfl
    · rw [parseClause]
      simp only [if_neg hopen, h]

theorem IsClause.exists_last {own : List String} (h : IsClause own) :
    ∃ init last, own = init ++ [last] ∧ last ≠ "" := by
  cases h with
  | @one line opens =>
    refine ⟨[], line, rfl, ?_⟩
    rintro rfl
    exact absurd opens (by decide)
  | @list line paren inside opens listed closes =>
    refine ⟨line :: inside, paren, rfl, ?_⟩
    rintro rfl
    exact absurd closes (by decide)

/-- Lines that begin a text, up to the end of a clause. The clause is found whatever follows it, and its
entries are read again from what is written of them. -/
structure Opening (before own : List String) (entries : ImportEntries) : Prop where
  noneBefore : ∀ line ∈ before, ¬isImportLine line
  early : before.length < lookahead
  found : ∀ more, find? (before ++ (own ++ more)) =
    .ok (some ⟨before.length, before.length + own.length, entries⟩)
  wellRead : InOrder Legible entries
  uncommented : ∀ entry ∈ entries, ¬Commented entry

/-- A clause that is found is found whatever follows it. -/
theorem exists_opening {lines : List String} {clause : Clause}
    (hfind : find? lines = .ok (some clause)) (hplain : ∀ entry ∈ clause.entries, ¬Commented entry) :
    ∃ before own after, lines = before ++ (own ++ after) ∧ IsClause own ∧
      clause.start = before.length ∧ clause.stop = before.length + own.length ∧
      Opening before own clause.entries := by
  obtain ⟨hread, hearly, before, own, after, rfl, hbefore, hclause, hstart, hstop⟩ :=
    exists_of_found (reads_legible lines) hfind
  rw [hstart] at hearly
  refine ⟨before, own, after, rfl, hclause, hstart, hstop, hbefore, hearly, ?_, hread, hplain⟩
  obtain ⟨line, tail, rfl, hopens⟩ := hclause.exists_cons
  rw [List.cons_append, find?_append_cons hbefore hearly hopens] at hfind
  cases hparse : parseClause before.length line (tail ++ after) with
  | error e =>
    rw [hparse] at hfind
    cases hfind
  | ok found =>
    rw [hparse] at hfind
    obtain rfl : clause = found := (Option.some.inj (Except.ok.inj hfind)).symm
    -- The parser stops where its own lines end, so these are the lines of the clause.
    obtain ⟨own, rest, hsplit, hlength, hlocal⟩ := parseClause_local hparse
    have hown : own = tail := by
      refine (List.append_inj_left hsplit ?_).symm
      rw [List.length_cons] at hstop
      omega
    intro more
    rw [List.cons_append, find?_append_cons hbefore hearly hopens, ← hown, hlocal more, hown, ← hstop,
      ← hstart]
    rfl

/-- The lines of a clause with these entries once packages were added. -/
def widenedClause (own : List String) (entries : ImportEntries) (packages : Packages) : List String :=
  if packages = [] then own else render (addPackages entries packages)

theorem widenedClause_append (own : List String) (entries : ImportEntries) (packages more : Packages) :
    widenedClause (widenedClause own entries packages) (addPackages entries packages) more =
      widenedClause own entries (packages ++ more) := by
  unfold widenedClause
  rw [← addPackages_append]
  by_cases hmore : more = []
  · rw [hmore, if_pos rfl, List.append_nil]
  · rw [if_neg hmore, if_neg (by simp [hmore])]

/-- Only which packages were added shows in the clause. -/
theorem widenedClause_congr (own : List String) (h : Sorted entries)
    (hsame : ∀ path, path ∈ packages ↔ path ∈ more) :
    widenedClause own entries packages = widenedClause own entries more := by
  have hempty : packages = [] ↔ more = [] := by
    simp only [List.eq_nil_iff_forall_not_mem, hsame]
  unfold widenedClause
  rw [addPackages_congr h hsame]
  simp only [hempty]

theorem widenedClause_comm (own : List String) (h : Sorted entries) (packages more : Packages) :
    widenedClause own entries (packages ++ more) = widenedClause own entries (more ++ packages) :=
  widenedClause_congr own h fun _ => List.perm_append_comm.mem_iff

namespace Opening
variable {before own : List String}

/-- The clause is widened where it stands. -/
theorem merge_eq (h : Opening before own entries) (packages : Packages) (after : List String) :
    merge (before ++ (own ++ after)) packages =
      .ok (before ++ (widenedClause own entries packages ++ after)) := by
  unfold merge widenedClause
  by_cases hne : packages = []
  · rw [if_pos (by simp [hne]), if_pos hne]
  · rw [if_neg (by simpa using hne), if_neg hne, h.found]
    exact congrArg Except.ok (replaceLines_append _ _ _ _)

/-- A clause that was widened is found like the one before. -/
theorem widen (h : Opening before own entries) (hquote : ∀ path ∈ packages, '"' ∉ path.toList) :
    Opening before (widenedClause own entries packages) (addPackages entries packages) := by
  by_cases hne : packages = []
  · rw [hne, widenedClause, if_pos rfl]
    exact h
  have hread := h.wellRead.addPackages fun path hpath => legible_plain (hquote path hpath)
  have huncommented : ∀ entry ∈ addPackages entries packages, ¬Commented entry := by
    intro entry hentry
    rcases mem_addPackages hentry with hmem | ⟨path, -, rfl⟩
    · exact h.uncommented entry hmem
    · exact not_commented_plain path
  refine ⟨h.noneBefore, h.early, fun more => ?_, hread, huncommented⟩
  rw [widenedClause, if_neg hne, find?_append_render h.noneBefore hread
    (ne_nil_of_imported hne (imported_addPackages entries packages)), if_pos h.early,
    kept_of_uncommented huncommented]

end Opening

end

end RowTypes.Imports
