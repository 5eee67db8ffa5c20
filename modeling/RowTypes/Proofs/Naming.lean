import RowTypes.Naming
import RowTypes.Proofs.Text.Case
import RowTypes.Proofs.Text.Lines

/-!
What derived names are made of. A field name is made of the letters of a database name in another case,
so it has no white space if that has none, it never begins with a small `i`, and it has no underscores,
since these part the words.

What is proved:
  1. `unspaced_fieldName`, `unspaced_keyName`, `unspaced_typeName`: derived names add no white space.
  2. `fieldChars_cases`: a field name is empty or begins with a character that is no `i`.
  3. `underscore_not_mem_fieldName`: a field name has no underscore.
-/

namespace RowTypes.Naming

open Text

theorem mem_of_mem_splitOn {a c : Char} {s word : List Char} (hword : word ∈ s.splitOn a)
    (hc : c ∈ word) : c ∈ s := by
  induction s generalizing word with
  | nil =>
    rw [List.splitOn_nil, List.mem_singleton] at hword
    rwa [hword] at hc
  | cons d s ih =>
    rw [List.splitOn_cons_eq_if_modifyHead] at hword
    split at hword
    · rcases List.mem_cons.mp hword with rfl | hrest
      · simp at hc
      · exact List.mem_cons_of_mem _ (ih hrest hc)
    · obtain ⟨first, rest, hsplit⟩ := List.exists_cons_of_ne_nil (List.splitOn_ne_nil a s)
      rw [hsplit] at hword ih
      rcases List.mem_cons.mp hword with rfl | hrest
      · rcases List.mem_cons.mp hc with rfl | hfirst
        · exact List.mem_cons_self
        · exact List.mem_cons_of_mem _ (ih List.mem_cons_self hfirst)
      · exact List.mem_cons_of_mem _ (ih (List.mem_cons_of_mem _ hrest) hc)

theorem unspaced_words {s word : List Char} (h : Unspaced s) (hword : word ∈ words s) :
    Unspaced word :=
  fun c hc => h.lower c (mem_of_mem_splitOn (List.mem_filter.mp hword).1 hc)

theorem unspaced_capitalize {word : List Char} (h : Unspaced word) : Unspaced (capitalize word) := by
  cases word with
  | nil => simp [capitalize]
  | cons c rest =>
    obtain ⟨hc, hrest⟩ := unspaced_cons.mp h
    exact unspaced_append.mpr ⟨unspaced_upperChar hc, hrest⟩

theorem unspaced_fieldChars {s : List Char} (h : Unspaced s) : Unspaced (fieldChars s) := by
  intro c hc
  obtain ⟨word, hword, hmem⟩ := List.mem_flatMap.mp hc
  exact unspaced_capitalize (unspaced_words h hword) c hmem

/-- A field name has no white space if the database name has none. -/
theorem unspaced_fieldName {name : String} (h : Unspaced name.toList) :
    Unspaced (fieldName name).toList := by
  rw [fieldName, String.toList_ofList]
  exact unspaced_fieldChars h

theorem unspaced_keyName {name : String} (h : Unspaced name.toList) :
    Unspaced (keyName name).toList := by
  have hfield := unspaced_fieldChars h
  unfold keyName
  split
  · simp
  · next c rest hchars =>
    rw [hchars] at hfield
    obtain ⟨hc, hrest⟩ := unspaced_cons.mp hfield
    rw [String.toList_ofList]
    exact unspaced_append.mpr ⟨unspaced_lowerChar hc, hrest⟩

theorem unspaced_typeName {table suffix : String} (htable : Unspaced table.toList)
    (hsuffix : Unspaced suffix.toList) : Unspaced (typeName table suffix).toList := by
  rw [typeName, String.toList_append]
  exact unspaced_append.mpr ⟨unspaced_fieldName htable, hsuffix⟩

/-- A field name is empty or begins with a character that is no `i`. -/
theorem fieldChars_cases (s : List Char) :
    fieldChars s = [] ∨ (fieldChars s).head?.any (· != 'i') := by
  unfold fieldChars
  cases hwords : words s with
  | nil => exact .inl rfl
  | cons word rest =>
    right
    have hword : word ∈ words s := hwords ▸ List.mem_cons_self
    cases word with
    | nil => simp [words] at hword
    | cons c word =>
      obtain ⟨d, hd, hne⟩ := (Option.any_eq_true _ _).mp (head?_upperChar c)
      simp only [List.flatMap_cons, capitalize, List.append_assoc, List.head?_append, hd]
      exact hne

theorem underscore_not_mem_capitalize {word : List Char} (h : '_' ∉ word) :
    '_' ∉ capitalize word := by
  cases word with
  | nil => simp [capitalize]
  | cons c rest =>
    rw [List.mem_cons, not_or] at h
    simp only [capitalize, List.mem_append, not_or]
    exact ⟨underscore_not_mem_upperChar (Ne.symm h.1), h.2⟩

/-- Underscores part the words of a name and never reach the field name. -/
theorem underscore_not_mem_fieldName (name : String) : '_' ∉ (fieldName name).toList := by
  rw [fieldName, String.toList_ofList]
  intro hmem
  obtain ⟨word, hword, hc⟩ := List.mem_flatMap.mp hmem
  exact underscore_not_mem_capitalize (not_mem_of_mem_splitOn (List.mem_filter.mp hword).1) hc

end RowTypes.Naming
