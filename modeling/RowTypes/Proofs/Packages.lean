import Mathlib.Data.List.Nodup
import RowTypes.Packages

/-!
Package sets as sets. A set is told by its members, whatever the order in which they were put in.

What is proved:
  1. `mem_ofList`, `sorted_ofList`: the members of a set, and their order.
  2. `eq_of_mem_iff`: sets with the same members are equal.
-/

namespace RowTypes.Packages

/-- The packages stand in strictly ascending order. -/
def Sorted (packages : Packages) : Prop :=
  packages.Pairwise (· < ·)

variable {package other : String} {packages others : Packages}

theorem mem_insert : other ∈ insert package packages ↔ other = package ∨ other ∈ packages := by
  induction packages with
  | nil => simp [insert]
  | cons head rest ih =>
    unfold insert
    split
    · next heq => simp [heq]
    · split
      · exact List.mem_cons
      · rw [List.mem_cons, ih, List.mem_cons]
        exact or_left_comm

theorem Sorted.insert (h : Sorted packages) (package : String) :
    Sorted (insert package packages) := by
  induction packages with
  | nil => exact List.pairwise_singleton _ _
  | cons head rest ih =>
    obtain ⟨hhead, hrest⟩ := List.pairwise_cons.mp h
    unfold Packages.insert
    split
    · exact h
    · next hne =>
      split
      · next hlt =>
        apply List.pairwise_cons.mpr
        refine ⟨fun other hother => ?_, h⟩
        rcases List.mem_cons.mp hother with rfl | hmem
        · exact hlt
        · exact String.lt_trans hlt (hhead other hmem)
      · next hnlt =>
        apply List.pairwise_cons.mpr
        refine ⟨fun other hother => ?_, ih hrest⟩
        rcases mem_insert.mp hother with rfl | hmem
        · exact (Std.lt_trichotomy other head).resolve_left hnlt |>.resolve_left hne
        · exact hhead other hmem

theorem Sorted.insert_of_mem (h : Sorted packages) (hmem : package ∈ packages) :
    Packages.insert package packages = packages := by
  induction packages with
  | nil => simp at hmem
  | cons head rest ih =>
    obtain ⟨hhead, hrest⟩ := List.pairwise_cons.mp h
    rw [Packages.insert]
    rcases List.mem_cons.mp hmem with rfl | hmem
    · rw [if_pos rfl]
    · have hlt : head < package := hhead package hmem
      have hne : package ≠ head := fun heq => String.lt_irrefl head (heq ▸ hlt)
      rw [if_neg hne, if_neg (String.lt_asymm hlt), ih hrest hmem]

theorem sorted_foldl (h : Sorted packages) (more : List String) :
    Sorted (more.foldl (fun set package => Packages.insert package set) packages) := by
  induction more generalizing packages with
  | nil => exact h
  | cons first rest ih => exact ih (h.insert first)

theorem sorted_ofList (packages : List String) : Sorted (ofList packages) :=
  sorted_foldl List.Pairwise.nil packages

theorem mem_foldl {more : List String} :
    other ∈ more.foldl (fun set package => Packages.insert package set) packages ↔
      other ∈ packages ∨ other ∈ more := by
  induction more generalizing packages with
  | nil => simp
  | cons first rest ih =>
    rw [List.foldl_cons, ih, mem_insert, List.mem_cons]
    tauto

theorem Sorted.nodup (h : Sorted packages) : packages.Nodup := by
  apply List.Pairwise.imp _ h
  intro first second hlt heq
  exact String.lt_irrefl second (heq ▸ hlt)

theorem mem_ofList {packages : List String} : other ∈ ofList packages ↔ other ∈ packages := by
  rw [ofList, mem_foldl]
  simp

/-- Sets with the same members are equal. -/
theorem eq_of_mem_iff (h : Sorted packages) (h' : Sorted others)
    (hmem : ∀ package, package ∈ packages ↔ package ∈ others) : packages = others := by
  have hperm : packages.Perm others := (List.perm_ext_iff_of_nodup h.nodup h'.nodup).mpr hmem
  exact hperm.eq_of_pairwise
    (fun first second _ _ hlt hgt => absurd hgt (String.lt_asymm hlt)) h h'

theorem ofList_eq_ofList {first second : List String}
    (h : ∀ package, package ∈ first ↔ package ∈ second) : ofList first = ofList second :=
  eq_of_mem_iff (sorted_ofList first) (sorted_ofList second) fun package => by
    rw [mem_ofList, mem_ofList, h]

end RowTypes.Packages
