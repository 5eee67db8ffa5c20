import RowTypes.Proofs.Imports.Reading

/-!
Clauses that are read as they were written. One entry is written on the line of the keyword, and several
in a bracketed list, and each form is read by its own rules. An alias may look like a bracket, and a path
may hold brackets, semicolons and white space; still each entry comes back, since it ends with a quote
and an alias is not taken for a comment.

What is proved:
  1. `Proper.legible`, `Proper.not_commented`: proper entries are read again and are no comments.
  2. `find?_render`: the clause that is found is the one that was written.
-/

namespace RowTypes.Imports

open Text ImportEntries

/-- A name that a package may be imported under. -/
structure IsAlias (name : String) : Prop where
  nonempty : name ≠ ""
  unspaced : Unspaced name.toList
  unquoted : '"' ∉ name.toList
  no_comment : ¬['/', '/'] <+: name.toList

/-- An entry whose path is written between quotes, behind an alias if it has one. -/
structure Proper (entry : ImportEntry) : Prop where
  unquoted : '"' ∉ entry.path.toList
  written : entry.written = "\"" ++ entry.path ++ "\"" ∨
    ∃ name, IsAlias name ∧ entry.written = name ++ " \"" ++ entry.path ++ "\""

variable {entry : ImportEntry} {entries : ImportEntries}

theorem entryOf_eq {name : String} (hname : name ≠ "") (path : String) :
    entryOf name.toList path.toList = ⟨path, name ++ " \"" ++ path ++ "\""⟩ := by
  have hne : name.toList.isEmpty = false := by simpa using hname
  rw [entryOf, if_neg (by simp [hne]), String.ofList_toList, String.ofList_toList]
  have hwritten : name ++ " " ++ (plain path).written = name ++ " \"" ++ path ++ "\"" := by
    apply String.toList_inj.mp
    simp [plain]
  rw [hwritten]
  rfl

namespace Proper

/-- A proper entry can be read again. -/
theorem legible (h : Proper entry) : Legible entry := by
  obtain ⟨path, written⟩ := entry
  obtain ⟨hpath, hplain | ⟨name, hname, hwritten⟩⟩ := h
  · obtain rfl : written = (plain path).written := hplain
    exact legible_plain hpath
  · refine ⟨name.toList, path.toList, hname.unspaced, hname.unquoted, hpath, ?_⟩
    rw [entryOf_eq hname.nonempty]
    exact congrArg (ImportEntry.mk path) hwritten

/-- A proper entry is not taken for a comment. -/
theorem not_commented (h : Proper entry) : ¬Commented entry := by
  intro hcomment
  rcases h.written with hplain | ⟨name, hname, hwritten⟩
  · rw [Commented, hplain] at hcomment
    simp at hcomment
  · rw [Commented, hwritten] at hcomment
    have hchars : (name ++ " \"" ++ entry.path ++ "\"").toList =
        name.toList ++ ' ' :: '"' :: (entry.path.toList ++ ['"']) := by simp
    rw [hchars] at hcomment
    cases hname' : name.toList with
    | nil => exact hname.nonempty (String.toList_inj.mp hname')
    | cons c rest =>
      cases rest with
      | nil => simp [hname'] at hcomment
      | cons d rest =>
        apply hname.no_comment
        rw [hname'] at hcomment ⊢
        simpa using hcomment

end Proper

/-- A clause is found with the entries that it was written with, on just its own lines, whatever follows
them. -/
theorem find?_render (hsorted : Sorted entries) (hne : entries ≠ [])
    (hproper : ∀ entry ∈ entries, Proper entry) {before : List String} (hlength : before.length < 6)
    (hbefore : ∀ line ∈ before, ¬isImportLine line) (after : List String) :
    find? (before ++ render entries ++ after) =
      .ok (some ⟨before.length, before.length + (render entries).length, entries⟩) := by
  have hlegible : InOrder Legible entries :=
    ⟨hsorted, fun entry hentry => (hproper entry hentry).legible⟩
  have hfound := find?_append_render hbefore hlegible hne after
  have hkept : kept entries = entries :=
    kept_of_uncommented fun entry hentry => (hproper entry hentry).not_commented
  rw [if_pos (show before.length < lookahead from hlength), hkept] at hfound
  rw [List.append_assoc]
  exact hfound

/-- Aliases and paths that look like the ends of lists and clauses. -/
def bracketEntries : ImportEntries :=
  [⟨"a b", "( \"a b\""⟩, ⟨"c;d)", "\"c;d)\""⟩, ⟨"e", ") \"e\""⟩]

theorem find?_render_brackets :
    Sorted bracketEntries ∧ (∀ entry ∈ bracketEntries, Proper entry) ∧
      (∀ line ∈ ["package p", "important"], ¬isImportLine line) ∧
      find? (["package p", "important"] ++ render bracketEntries ++ [")", "import \"x\""]) =
        .ok (some ⟨2, 7, bracketEntries⟩) := by
  have hsorted : Sorted bracketEntries := by
    unfold Sorted
    decide
  have hbefore : ∀ line ∈ ["package p", "important"], ¬isImportLine line := by decide
  have hopening : IsAlias "(" := ⟨by decide, by decide, by decide, by decide⟩
  have hclosing : IsAlias ")" := ⟨by decide, by decide, by decide, by decide⟩
  have hproper : ∀ entry ∈ bracketEntries, Proper entry := by
    intro entry hentry
    simp only [bracketEntries, List.mem_cons, List.not_mem_nil, or_false] at hentry
    rcases hentry with rfl | rfl | rfl
    · exact ⟨by decide, .inr ⟨"(", hopening, rfl⟩⟩
    · exact ⟨by decide, .inl rfl⟩
    · exact ⟨by decide, .inr ⟨")", hclosing, rfl⟩⟩
  exact ⟨hsorted, hproper, hbefore,
    find?_render hsorted (by decide) hproper (by decide) hbefore [")", "import \"x\""]⟩

end RowTypes.Imports
