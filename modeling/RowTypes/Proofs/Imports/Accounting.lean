import RowTypes.Proofs.Imports.Declarations

/-!
What a merge does to the imports of a text, counted with multiplicity. The entries of a clause are a map
from paths, so a path that is imported twice is imported once afterwards. Later declarations are not
looked at, so a package that they import may be imported again.

What is proved:
  1. `exists_entriesFrom`, `exists_addPackages`: the entries of a clause as specs.
  2. `merge_accounts_iff`: exactly when the imports afterwards are those before and the missing ones.
  3. `merge_loses_spec`: two specs with one path, of which one is lost.
-/

namespace RowTypes.Imports

open Text ImportEntries

/-- The spec of a package without an alias. -/
def Spec.plain (path : String) : Spec :=
  ⟨[], path.toList⟩

/-- The specs of the packages that are not imported yet. -/
def missing (packages : Packages) (specs : List Spec) : List Spec :=
  (packages.filter fun path => !specs.any fun spec => spec.path == path.toList).map Spec.plain

section
variable {spec : Spec} {specs others : List Spec} {packages : Packages} {path : String}

@[simp] theorem Spec.path_entry (spec : Spec) : spec.entry.path = String.ofList spec.path := by
  rw [Spec.entry, entryOf]
  split <;> rfl

theorem Spec.entry_plain (path : String) : (Spec.plain path).entry = Imports.plain path := by
  simp [Spec.plain, Spec.entry, entryOf]

theorem mem_missing : spec ∈ missing packages specs ↔
    ∃ path ∈ packages, path.toList ∉ specs.map Spec.path ∧ spec = Spec.plain path := by
  simp only [missing, List.mem_map, List.mem_filter, Bool.not_eq_true', List.any_eq_false, beq_iff_eq,
    not_exists, not_and]
  constructor
  · rintro ⟨path, ⟨hpath, hnone⟩, rfl⟩
    exact ⟨path, hpath, hnone, rfl⟩
  · rintro ⟨path, hpath, hnone, rfl⟩
    exact ⟨path, ⟨hpath, hnone⟩, rfl⟩

theorem missing_congr (h : ∀ path ∈ packages,
    (path.toList ∈ specs.map Spec.path ↔ path.toList ∈ others.map Spec.path)) :
    missing packages specs = missing packages others := by
  refine congrArg (List.map Spec.plain) (List.filter_congr fun path hpath => ?_)
  have hiff := h path hpath
  simp only [List.mem_map] at hiff
  rw [Bool.eq_iff_iff]
  simp only [Bool.not_eq_true', List.any_eq_false, beq_iff_eq]
  constructor
  · intro hnone other hother heq
    obtain ⟨found, hfound, hsame⟩ := hiff.mpr ⟨other, hother, heq⟩
    exact hnone found hfound hsame
  · intro hnone other hother heq
    obtain ⟨found, hfound, hsame⟩ := hiff.mp ⟨other, hother, heq⟩
    exact hnone found hfound hsame

theorem missing_cons (path : String) (packages : Packages) (specs : List Spec) :
    missing (path :: packages) specs = if path.toList ∈ specs.map Spec.path then missing packages specs
      else Spec.plain path :: missing packages specs := by
  have hany : (specs.any fun spec => spec.path == path.toList) ↔
      path.toList ∈ specs.map Spec.path := by
    simp only [List.any_eq_true, beq_iff_eq, List.mem_map]
  rw [missing, List.filter_cons]
  by_cases himported : path.toList ∈ specs.map Spec.path
  · rw [if_pos himported, if_neg (by simp [hany.mpr himported]), missing]
  · rw [if_neg himported, if_pos (by simpa using mt hany.mp himported), List.map_cons, missing]

theorem missing_append_perm_iff :
    (missing packages specs).Perm (missing packages (specs ++ others)) ↔
      ∀ path ∈ packages, path.toList ∈ others.map Spec.path → path.toList ∈ specs.map Spec.path := by
  constructor
  · intro hperm path hpath hothers
    by_contra hlacks
    have hmem := hperm.mem_iff.mp (mem_missing.mpr ⟨path, hpath, hlacks, rfl⟩)
    obtain ⟨other, -, hnone, heq⟩ := mem_missing.mp hmem
    have hsame : path.toList = other.toList := congrArg Spec.path heq
    rw [← hsame, List.map_append] at hnone
    exact hnone (List.mem_append_right _ hothers)
  · intro hlater
    have hsame : missing packages specs = missing packages (specs ++ others) := by
      apply missing_congr
      intro path hpath
      rw [List.map_append, List.mem_append]
      exact ⟨.inl, fun h => h.elim id (hlater path hpath)⟩
    exact .of_eq hsame

/-! ## Entries as specs -/

/-- An entry that is put in takes the place of the one with its path, if there is one. -/
theorem exists_insert (spec : Spec) (specs : List Spec) : ∃ result : List Spec,
    ImportEntries.insert spec.entry (specs.map Spec.entry) = result.map Spec.entry ∧
      (∀ other ∈ result, other = spec ∨ other ∈ specs) ∧
      (∀ path, path ∈ result.map Spec.path ↔ path = spec.path ∨ path ∈ specs.map Spec.path) ∧
      (spec.path ∉ specs.map Spec.path → result.Perm (spec :: specs)) := by
  induction specs with
  | nil => exact ⟨[spec], rfl, by simp, by simp, fun _ => .refl _⟩
  | cons head rest ih =>
    rw [List.map_cons, ImportEntries.insert]
    simp only [Spec.path_entry, String.ofList_inj]
    split
    · next heq =>
      refine ⟨spec :: rest, rfl, fun other hother => ?_, fun path => ?_, fun hnew => ?_⟩
      · exact (List.mem_cons.mp hother).imp_right (List.mem_cons_of_mem _)
      · simp only [List.map_cons, List.mem_cons, heq]
        tauto
      · exact absurd (List.mem_map_of_mem List.mem_cons_self) (heq ▸ hnew)
    · split
      · exact ⟨spec :: head :: rest, rfl, fun other hother => List.mem_cons.mp hother, by simp,
          fun _ => .refl _⟩
      · obtain ⟨result, hresult, hmem, hpaths, hperm⟩ := ih
        refine ⟨head :: result, by rw [hresult]; rfl, fun other hother => ?_, fun path => ?_,
          fun hnew => ?_⟩
        · rcases List.mem_cons.mp hother with rfl | hother
          · exact .inr List.mem_cons_self
          · exact (hmem other hother).imp_right (List.mem_cons_of_mem _)
        · rw [List.map_cons, List.mem_cons, hpaths, List.map_cons, List.mem_cons]
          tauto
        · have hrest : spec.path ∉ rest.map Spec.path := fun hmem =>
            hnew (List.mem_cons_of_mem _ hmem)
          exact ((hperm hrest).cons head).trans (.swap spec head rest)

/-- The entries that are read from specs, as specs. -/
theorem exists_entriesFrom (specs others : List Spec) : ∃ kept : List Spec,
    entriesFrom (others.map Spec.entry) specs = kept.map Spec.entry ∧
      (∀ spec ∈ kept, spec ∈ others ++ specs) ∧
      (∀ path, path ∈ kept.map Spec.path ↔ path ∈ (others ++ specs).map Spec.path) ∧
      (((others ++ specs).map Spec.path).Nodup → kept.Perm (others ++ specs)) := by
  induction specs generalizing others with
  | nil => exact ⟨others, rfl, by simp, by simp, fun _ => by simp⟩
  | cons spec specs ih =>
    obtain ⟨placed, hplaced, hmem, hpaths, hperm⟩ := exists_insert spec others
    obtain ⟨kept, hkept, hmemKept, hpathsKept, hpermKept⟩ := ih placed
    refine ⟨kept, ?_, fun other hother => ?_, fun path => ?_, fun hnodup => ?_⟩
    · rw [← hkept, ← hplaced]
      rfl
    · rcases List.mem_append.mp (hmemKept other hother) with hin | hin
      · rcases hmem other hin with rfl | hin
        · simp
        · simp [hin]
      · simp [hin]
    · rw [hpathsKept, List.map_append, List.mem_append, hpaths]
      simp only [List.map_append, List.map_cons, List.mem_append, List.mem_cons]
      tauto
    · have hmiddle : (others ++ spec :: specs).Perm (spec :: (others ++ specs)) := List.perm_middle
      have hnew := (hmiddle.map Spec.path).nodup_iff.mp hnodup
      have hfirst : placed.Perm (spec :: others) := hperm fun hin =>
        (List.nodup_cons.mp hnew).1 (by rw [List.map_append]; exact List.mem_append_left _ hin)
      have hall : (placed ++ specs).Perm (spec :: (others ++ specs)) := hfirst.append_right specs
      exact (hpermKept ((hall.map Spec.path).nodup_iff.mpr hnew)).trans (hall.trans hmiddle.symm)

/-- Adding packages to entries adds what is missing. -/
theorem exists_addPackages (specs : List Spec) (hnodup : packages.Nodup) : ∃ result : List Spec,
    addPackages (specs.map Spec.entry) packages = result.map Spec.entry ∧
      result.Perm (specs ++ missing packages specs) := by
  induction packages generalizing specs with
  | nil => exact ⟨specs, rfl, by simp [missing]⟩
  | cons path packages ih =>
    obtain ⟨hpath, hnodup⟩ := List.nodup_cons.mp hnodup
    have hany : ((specs.map Spec.entry).any fun entry => entry.path == path) ↔
        path.toList ∈ specs.map Spec.path := by
      simp [List.any_map, ← String.toList_inj]
    rw [addPackages_cons, missing_cons]
    by_cases himported : path.toList ∈ specs.map Spec.path
    · rw [if_pos (hany.mpr himported), if_pos himported]
      exact ih specs hnodup
    · rw [if_neg (mt hany.mp himported), if_neg himported, ← Spec.entry_plain]
      obtain ⟨placed, hplaced, -, hpaths, hperm⟩ := exists_insert (Spec.plain path) specs
      obtain ⟨result, hresult, hpermRest⟩ := ih placed hnodup
      have hsame : missing packages placed = missing packages specs := by
        apply missing_congr
        intro other hother
        rw [hpaths]
        have hne : other.toList ≠ (Spec.plain path).path := fun heq =>
          hpath (String.toList_inj.mp heq ▸ hother)
        simp [hne]
      have hleft : result.Perm (Spec.plain path :: specs ++ missing packages specs) :=
        hsame ▸ hpermRest.trans ((hperm himported).append_right _)
      exact ⟨result, by rw [hplaced, hresult], hleft.trans List.perm_middle.symm⟩

theorem nodup_of_sorted (h : Sorted (specs.map Spec.entry)) : (specs.map Spec.path).Nodup := by
  have hpaths := List.pairwise_map.mp h
  apply List.pairwise_map.mpr
  apply List.Pairwise.imp _ hpaths
  intro first second hlt heq
  rw [Spec.path_entry, Spec.path_entry, heq] at hlt
  exact String.lt_irrefl _ hlt

theorem sorted_entriesFrom {entries : ImportEntries} (h : Sorted entries) (specs : List Spec) :
    Sorted (entriesFrom entries specs) := by
  induction specs generalizing entries with
  | nil => exact h
  | cons spec specs ih => exact ih (h.insert _)

theorem Lists.valid {Ends : List Char → Prop} {pieces : List (List Char)} (h : Lists Ends pieces specs) :
    ∀ spec ∈ specs, spec.Valid := by
  induction h with
  | nil => simp
  | pass _ _ ih => exact ih
  | spec spelled _ _ ih => exact List.forall_mem_cons.mpr ⟨spelled.valid, ih⟩

theorem Declaration.valid {lines : List String} (h : Declaration lines specs) :
    ∀ spec ∈ specs, spec.Valid := by
  cases h with
  | single _ spelled _ => exact List.forall_mem_cons.mpr ⟨spelled.valid, by simp⟩
  | inline _ _ _ _ lists _ => exact lists.valid
  | list _ _ _ lists _ _ _ => exact lists.valid

end

/-! ## The imports afterwards -/

section
variable {before declaration after : List String} {own : List Spec} {packages : Packages}

/-- The declaration that a merge puts in place of the first one: with different paths, and the specs of
the old one if theirs are different already. -/
theorem exists_merged (hbefore : ∀ line ∈ before, ¬isImportLine line)
    (hearly : before.length < lookahead) (hdeclaration : Declaration declaration own)
    (hne : packages ≠ []) (hnodup : packages.Nodup) (hquote : ∀ path ∈ packages, '"' ∉ path.toList)
    (after : List String) : ∃ written specs, Declaration written specs ∧
      merge (before ++ (declaration ++ after)) packages = .ok (before ++ (written ++ after)) ∧
      (specs.map Spec.path).Nodup ∧
      ((own.map Spec.path).Nodup → specs.Perm (own ++ missing packages own)) := by
  obtain ⟨kept, hkept, hmem, hpaths, hperm⟩ := exists_entriesFrom own []
  obtain ⟨specs, hspecs, hall⟩ := exists_addPackages kept hnodup
  rw [List.map_nil] at hkept
  have hsame : missing packages kept = missing packages own :=
    missing_congr fun path _ => hpaths path.toList
  have hvalid : ∀ spec ∈ specs, spec.Valid := by
    intro spec hspec
    rcases List.mem_append.mp (hall.mem_iff.mp hspec) with hin | hin
    · exact hdeclaration.valid spec (hmem spec hin)
    · obtain ⟨path, hpath, -, rfl⟩ := mem_missing.mp hin
      exact ⟨by simp [Spec.plain], hquote path hpath⟩
  have hspecsNe : specs ≠ [] := by
    rintro rfl
    have himported := imported_addPackages (kept.map Spec.entry) packages
    rw [hspecs] at himported
    exact ne_nil_of_imported hne himported rfl
  refine ⟨render (specs.map Spec.entry), specs, declaration_render hvalid hspecsNe, ?_, ?_, ?_⟩
  · rw [merge, if_neg (by simpa using hne), find?_declaration hbefore hearly hdeclaration, hkept]
    simp only [hspecs, replaceLines_append]
  · apply nodup_of_sorted
    rw [← hspecs, ← hkept]
    exact sorted_addPackages (sorted_entriesFrom List.Pairwise.nil own) packages
  · intro hdistinct
    exact hsame ▸ hall.trans ((hperm hdistinct).append_right _)

theorem perm_append_others_iff {specs own others more : List Spec} :
    (specs ++ others).Perm (own ++ others ++ more) ↔ specs.Perm (own ++ more) := by
  have hswap : (own ++ others ++ more).Perm (own ++ more ++ others) := by
    rw [List.append_assoc, List.append_assoc]
    exact List.perm_append_comm.append_left own
  rw [hswap.congr_right, List.perm_append_right_iff]

/-- Exactly when a merge accounts for all imports: when the first declaration imports no path twice, and
no package that it lacks is imported by a later one. -/
theorem merge_accounts_iff (hbefore : ∀ line ∈ before, ¬isImportLine line)
    (hearly : before.length < lookahead) (hdeclaration : Declaration declaration own)
    (hne : packages ≠ []) (hnodup : packages.Nodup) (hquote : ∀ path ∈ packages, '"' ∉ path.toList)
    (after : List String) : ∃ result, merge (before ++ (declaration ++ after)) packages = .ok result ∧
      ((imported result).Perm (imported (before ++ (declaration ++ after)) ++
          missing packages (imported (before ++ (declaration ++ after)))) ↔
        (own.map Spec.path).Nodup ∧ ∀ path ∈ packages,
          path.toList ∈ (imported after).map Spec.path → path.toList ∈ own.map Spec.path) := by
  obtain ⟨written, specs, hwritten, hmerge, hdistinct, hspecs⟩ :=
    exists_merged hbefore hearly hdeclaration hne hnodup hquote after
  refine ⟨_, hmerge, ?_⟩
  rw [imported_append_of_not hbefore, imported_append_of_not hbefore, imported_declaration hwritten,
    imported_declaration hdeclaration]
  generalize imported after = others
  rw [perm_append_others_iff]
  constructor
  · intro hperm
    have hown : (own.map Spec.path).Nodup := by
      have hnodup := (hperm.map Spec.path).nodup_iff.mp hdistinct
      rw [List.map_append] at hnodup
      exact (List.nodup_append.mp hnodup).1
    refine ⟨hown, missing_append_perm_iff.mp ?_⟩
    exact (List.perm_append_left_iff own).mp ((hspecs hown).symm.trans hperm)
  · rintro ⟨hown, hlater⟩
    exact (hspecs hown).trans ((missing_append_perm_iff.mpr hlater).append_left own)

end

/-- A declaration with an alias, and another declaration. -/
def aliased : List String :=
  ["package olaf", "", "import dbsql \"database/sql\"", "", "import \"fmt\""]

theorem merge_accounts_aliased : ∃ result, merge aliased ["time"] = .ok result ∧
    (imported result).Perm (imported aliased ++ missing ["time"] (imported aliased)) := by
  have hvalid : (Spec.mk "dbsql".toList "database/sql".toList).Valid := by decide
  have hspelled : Spelled ⟨"dbsql".toList, "database/sql".toList⟩ " dbsql \"database/sql\"".toList [] :=
    ⟨hvalid, [' '], [' '], by decide, by decide, by decide⟩
  have hdeclaration : Declaration ["import dbsql \"database/sql\""] [⟨"dbsql".toList, "database/sql".toList⟩] :=
    .single ⟨⟨[], by decide, by decide⟩, by decide⟩ hspelled trails_nil
  obtain ⟨result, hmerge, hiff⟩ := merge_accounts_iff
    (show ∀ line ∈ ["package olaf", ""], ¬isImportLine line by decide) (by decide) hdeclaration
    (show ["time"] ≠ [] by decide) (by decide) (by decide) ["", "import \"fmt\""]
  exact ⟨result, hmerge, hiff.mpr ⟨by decide, by decide⟩⟩

/-- A package that is imported for its effects and by its name. -/
def twice : List String :=
  ["import (", "\t_ \"github.com/lib/pq\"", "\tpq \"github.com/lib/pq\"", ")"]

/-- The second spec takes the place of the first. -/
theorem merge_loses_spec :
    Declaration twice
      [⟨"_".toList, "github.com/lib/pq".toList⟩, ⟨"pq".toList, "github.com/lib/pq".toList⟩] ∧
    ∃ result, merge ("package olaf" :: "" :: twice) ["time"] = .ok result ∧
      ¬(imported result).Perm (imported ("package olaf" :: "" :: twice) ++
        missing ["time"] (imported ("package olaf" :: "" :: twice))) := by
  have hfirst : Spelled ⟨"_".toList, "github.com/lib/pq".toList⟩
      "\t_ \"github.com/lib/pq\"".toList [] :=
    ⟨by decide, ['\t'], [' '], by decide, by decide, by decide⟩
  have hsecond : Spelled ⟨"pq".toList, "github.com/lib/pq".toList⟩
      "\tpq \"github.com/lib/pq\"".toList [] :=
    ⟨by decide, ['\t'], [' '], by decide, by decide, by decide⟩
  have hopens : Opens "import (" ([' '] ++ '(' :: []) := ⟨⟨[], by decide, by decide⟩, by decide⟩
  have hcloses : ")".toList = [] ++ ')' :: [] := by decide
  have hlists : Lists Trails
      (["\t_ \"github.com/lib/pq\"", "\tpq \"github.com/lib/pq\""].map String.toList)
      [⟨"_".toList, "github.com/lib/pq".toList⟩, ⟨"pq".toList, "github.com/lib/pq".toList⟩] :=
    .spec hfirst trails_nil (.spec hsecond trails_nil .nil)
  refine ⟨.list hopens (by decide) (by decide) hlists hcloses (by decide) (by decide), ?_⟩
  exact ⟨["package olaf", "", "import (", "\tpq \"github.com/lib/pq\"", "\t\"time\"", ")"],
    by decide +kernel, by decide⟩

end RowTypes.Imports
