import RowTypes.Imports
import RowTypes.Proofs.Packages

/-!
Import entries. They stand in the order of their paths, and adding packages that are there already
changes nothing.

What is proved:
  1. `Sorted.insert`, `Sorted.addPackages`: the entries stay in order.
  2. `foldl_insert`: entries in order that are put in one after the other give themselves.
  3. `addPackages_of_imported`: packages that are there are not added again.
  4. `addPackages_nil_eq`: a new clause holds the package set of all that was added.
-/

namespace RowTypes

namespace ImportEntries

/-- The entries stand in strictly ascending order of their paths. -/
def Sorted (entries : ImportEntries) : Prop :=
  entries.Pairwise fun first second => first.path < second.path

/-- An entry of each of these paths is there. -/
def Imported (entries : ImportEntries) (packages : Packages) : Prop :=
  ∀ path ∈ packages, ∃ entry ∈ entries, entry.path = path

variable {entry other : ImportEntry} {entries done : ImportEntries} {packages : Packages}

theorem mem_insert (h : other ∈ insert entry entries) : other = entry ∨ other ∈ entries := by
  induction entries with
  | nil => exact .inl (List.mem_singleton.mp h)
  | cons head rest ih =>
    unfold ImportEntries.insert at h
    split at h
    · rcases List.mem_cons.mp h with rfl | hrest
      · exact .inl rfl
      · exact .inr (List.mem_cons_of_mem _ hrest)
    · split at h
      · exact List.mem_cons.mp h
      · rcases List.mem_cons.mp h with rfl | hrest
        · exact .inr List.mem_cons_self
        · exact (ih hrest).imp_right (List.mem_cons_of_mem _)

theorem Sorted.insert (h : Sorted entries) (entry : ImportEntry) : Sorted (insert entry entries) := by
  induction entries with
  | nil => simp [ImportEntries.insert, Sorted]
  | cons head rest ih =>
    obtain ⟨hhead, hrest⟩ := List.pairwise_cons.mp h
    unfold ImportEntries.insert
    split
    · next heq => exact List.pairwise_cons.mpr ⟨fun other hmem => heq ▸ hhead other hmem, hrest⟩
    · next hne =>
      split
      · next hlt =>
        refine List.pairwise_cons.mpr ⟨fun other hmem => ?_, h⟩
        rcases List.mem_cons.mp hmem with rfl | hmem
        · exact hlt
        · exact String.lt_trans hlt (hhead other hmem)
      · next hnlt =>
        have hgt : head.path < entry.path := by
          rcases Std.lt_trichotomy entry.path head.path with hlt | heq | hgt
          · exact absurd hlt hnlt
          · exact absurd heq hne
          · exact hgt
        refine List.pairwise_cons.mpr ⟨fun other hmem => ?_, ih hrest⟩
        rcases mem_insert hmem with rfl | hmem
        · exact hgt
        · exact hhead other hmem

theorem insert_of_lt (h : ∀ other ∈ entries, other.path < entry.path) :
    ImportEntries.insert entry entries = entries ++ [entry] := by
  induction entries with
  | nil => rfl
  | cons head rest ih =>
    have hhead := h head List.mem_cons_self
    have hne : entry.path ≠ head.path := fun heq => String.lt_irrefl _ (heq ▸ hhead)
    have hnlt : ¬entry.path < head.path := String.lt_asymm hhead
    rw [ImportEntries.insert, if_neg hne, if_neg hnlt, ih fun other hmem => h other (List.mem_cons_of_mem _ hmem)]
    rfl

/-- Entries in order that are put in one after the other give themselves. -/
theorem foldl_insert (h : Sorted (done ++ entries)) :
    entries.foldl (fun set entry => ImportEntries.insert entry set) done = done ++ entries := by
  induction entries generalizing done with
  | nil => simp
  | cons entry rest ih =>
    have hbefore : ∀ other ∈ done, other.path < entry.path := fun other hmem =>
      (List.pairwise_append.mp h).2.2 other hmem entry List.mem_cons_self
    rw [List.foldl_cons, insert_of_lt hbefore, ih (by simpa using h)]
    simp

theorem imported_insert (h : Imported entries packages) (entry : ImportEntry) :
    Imported (ImportEntries.insert entry entries) packages := by
  intro path hpath
  obtain ⟨found, hfound, rfl⟩ := h path hpath
  clear h hpath
  induction entries with
  | nil => simp at hfound
  | cons head rest ih =>
    unfold ImportEntries.insert
    split
    · next heq =>
      rcases List.mem_cons.mp hfound with rfl | hrest
      · exact ⟨entry, List.mem_cons_self, heq⟩
      · exact ⟨found, List.mem_cons_of_mem _ hrest, rfl⟩
    · split
      · exact ⟨found, List.mem_cons_of_mem _ hfound, rfl⟩
      · rcases List.mem_cons.mp hfound with rfl | hrest
        · exact ⟨found, List.mem_cons_self, rfl⟩
        · obtain ⟨kept, hkept, hpath⟩ := ih hrest
          exact ⟨kept, List.mem_cons_of_mem _ hkept, hpath⟩

theorem mem_insert_self : entry ∈ insert entry entries := by
  induction entries with
  | nil => exact List.mem_cons_self
  | cons head rest ih =>
    unfold ImportEntries.insert
    split
    · exact List.mem_cons_self
    · split
      · exact List.mem_cons_self
      · exact List.mem_cons_of_mem _ ih

end ImportEntries

namespace Imports

open ImportEntries

variable {entry : ImportEntry} {entries : ImportEntries} {path : String} {packages : Packages}

theorem addPackages_cons : addPackages entries (path :: packages) =
    addPackages (if entries.any fun entry => entry.path == path then entries
      else ImportEntries.insert (plain path) entries) packages :=
  rfl

theorem mem_addPackages (h : entry ∈ addPackages entries packages) :
    entry ∈ entries ∨ ∃ path ∈ packages, entry = plain path := by
  induction packages generalizing entries with
  | nil => exact .inl h
  | cons path rest ih =>
    rw [addPackages_cons] at h
    rcases ih h with hmem | ⟨other, hother, rfl⟩
    · split at hmem
      · exact .inl hmem
      · rcases mem_insert hmem with rfl | hmem
        · exact .inr ⟨path, List.mem_cons_self, rfl⟩
        · exact .inl hmem
    · exact .inr ⟨other, List.mem_cons_of_mem _ hother, rfl⟩

theorem sorted_addPackages (h : Sorted entries) (packages : Packages) :
    Sorted (addPackages entries packages) := by
  induction packages generalizing entries with
  | nil => exact h
  | cons path rest ih =>
    rw [addPackages_cons]
    split
    · exact ih h
    · exact ih (h.insert _)

theorem imported_addPackages_of_imported {others : Packages} (h : Imported entries packages) :
    Imported (addPackages entries others) packages := by
  induction others generalizing entries with
  | nil => exact h
  | cons path rest ih =>
    rw [addPackages_cons]
    split
    · exact ih h
    · exact ih (imported_insert h _)

theorem imported_addPackages (entries : ImportEntries) (packages : Packages) :
    Imported (addPackages entries packages) packages := by
  induction packages generalizing entries with
  | nil => intro path hpath; simp at hpath
  | cons first rest ih =>
    intro path hpath
    rcases List.mem_cons.mp hpath with rfl | hrest
    · rw [addPackages_cons]
      suffices hfirst : Imported _ [path] from
        imported_addPackages_of_imported hfirst path (by simp)
      intro other hother
      rw [List.mem_singleton.mp hother]
      split
      · next hany =>
        obtain ⟨found, hfound, heq⟩ := List.any_eq_true.mp hany
        exact ⟨found, hfound, by simpa using heq⟩
      · exact ⟨plain path, mem_insert_self, rfl⟩
    · rw [addPackages_cons]
      exact ih _ path hrest

/-- Packages that are there are not added again. -/
theorem addPackages_of_imported (h : Imported entries packages) :
    addPackages entries packages = entries := by
  induction packages with
  | nil => rfl
  | cons path rest ih =>
    obtain ⟨found, hfound, hpath⟩ := h path List.mem_cons_self
    have hany : entries.any fun entry => entry.path == path :=
      List.any_eq_true.mpr ⟨found, hfound, by simpa using hpath⟩
    rw [addPackages_cons, if_pos hany]
    exact ih fun other hother => h other (List.mem_cons_of_mem _ hother)

/-! ## New clauses -/

theorem insert_plain : ImportEntries.insert (plain path) (packages.map plain) =
    (Packages.insert path packages).map plain := by
  induction packages with
  | nil => rfl
  | cons head rest ih =>
    rw [List.map_cons, ImportEntries.insert, Packages.insert]
    show (if path = head then _ else if path < head then _ else _) = _
    split
    · next heq => rw [heq, List.map_cons]
    · split
      · rfl
      · rw [ih, List.map_cons]

theorem addPackages_map_plain (h : Packages.Sorted packages) (more : Packages) :
    addPackages (packages.map plain) more =
      (more.foldl (fun set package => Packages.insert package set) packages).map plain := by
  induction more generalizing packages with
  | nil => rfl
  | cons first rest ih =>
    rw [addPackages_cons, List.foldl_cons, ← ih (h.insert first), insert_plain]
    split
    · next hany =>
      obtain ⟨entry, hentry, hpath⟩ := List.any_eq_true.mp hany
      obtain ⟨other, hother, rfl⟩ := List.mem_map.mp hentry
      have heq : other = first := by simpa [plain] using hpath
      rw [h.insert_of_mem (heq ▸ hother)]
    · rfl

theorem addPackages_nil_eq (packages : Packages) :
    addPackages [] packages = (Packages.ofList packages).map plain :=
  addPackages_map_plain List.Pairwise.nil packages

theorem addPackages_append (packages more : Packages) :
    addPackages entries (packages ++ more) = addPackages (addPackages entries packages) more :=
  List.foldl_append

end Imports

end RowTypes
