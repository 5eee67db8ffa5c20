import RowTypes.Proofs.Block.Names

/-!
Underscores in names. Which form a sigma takes in lower case depends on the letters around it, on both
sides and at any distance. But an underscore is neither a letter nor passed over where letters are
looked for, so what stands on one side of it is not seen from the other. A name is therefore put into
lower case piece by piece, and its field name is made of those of the pieces.

What is proved:
  1. `meetsCased_append_cons`: no letter is seen across a character that parts words.
  2. `lower_append_cons`: both sides of such a character are put into lower case by themselves.
  3. `fieldChars_append_underscore`, `fieldChars_eq_flatMap`: the field name of a name with underscores.
  4. `fieldChars_of_piece`: the field name of a name without them.
  5. `fieldName_of_pieces`: the same of names as texts, and that the reserved field is no field name.
-/

namespace RowTypes

namespace Text

/-- A character that parts words: it has no case, is not passed over where letters are looked for, and
is the same in lower case. -/
structure PartsWords (c : Char) : Prop where
  uncased : isCased c = false
  seen : isIgnorable c = false
  fixed : lowerChar c = [c]

theorem partsWords_underscore : PartsWords '_' :=
  ⟨by decide +kernel, by decide +kernel, by decide⟩

variable {c : Char}

theorem PartsWords.ne_sigma (h : PartsWords c) : c ≠ 'Σ' := by
  intro hc
  have hsigma : isCased 'Σ' = true := by decide +kernel
  rw [← hc, h.uncased] at hsigma
  cases hsigma

/-- No letter is seen across a character that parts words. -/
theorem meetsCased_append_cons (h : PartsWords c) (s t : List Char) :
    meetsCased (s ++ c :: t) = meetsCased s := by
  induction s with
  | nil => simp [meetsCased, h.seen, h.uncased]
  | cons d s ih =>
    by_cases hd : isIgnorable d
    · simp only [meetsCased, List.cons_append, List.dropWhile_cons_of_pos hd]
      exact ih
    · simp only [meetsCased, List.cons_append, List.dropWhile_cons_of_neg hd]

theorem lowerAfter_append_cons (h : PartsWords c) (front before s : List Char) :
    lowerAfter (front ++ c :: before) s = lowerAfter front s := by
  induction s generalizing front with
  | nil => rfl
  | cons d s ih =>
    have hfinal : sigmaIsFinal (front ++ c :: before) s = sigmaIsFinal front s := by
      rw [sigmaIsFinal, meetsCased_append_cons h, sigmaIsFinal]
    have hrest : lowerAfter (d :: (front ++ c :: before)) s = lowerAfter (d :: front) s :=
      ih (d :: front)
    rw [lowerAfter, lowerAfter, hfinal, hrest]

/-- Both sides of a character that parts words are put into lower case by themselves. -/
theorem lower_append_cons (h : PartsWords c) (s t : List Char) :
    lower (s ++ c :: t) = lower s ++ c :: lower t := by
  suffices hafter : ∀ before, lowerAfter before (s ++ c :: t) = lowerAfter before s ++ c :: lower t from
    hafter []
  induction s with
  | nil =>
    intro before
    have hc : (c == 'Σ') = false := beq_false_of_ne h.ne_sigma
    have hbehind : lowerAfter (c :: before) t = lower t := lowerAfter_append_cons h [] before t
    simp only [List.nil_append, lowerAfter, hc, h.fixed, hbehind]
    rfl
  | cons d s ih =>
    intro before
    have hfinal : sigmaIsFinal before (s ++ c :: t) = sigmaIsFinal before s := by
      rw [sigmaIsFinal, meetsCased_append_cons h, sigmaIsFinal]
    simp only [List.cons_append, lowerAfter, hfinal, ih, List.append_assoc]

end Text

namespace Naming

open Text

/-- The pieces of a name between its underscores. -/
def pieces (name : String) : List String :=
  ((name.toList.splitOn '_').filter (!·.isEmpty)).map String.ofList

variable {s t : List Char}

theorem words_append_underscore (s t : List Char) : words (s ++ '_' :: t) = words s ++ words t := by
  rw [words, lower_append_cons partsWords_underscore, List.splitOn_append_cons_self,
    List.filter_append]
  rfl

/-- The field name of two names with an underscore between them. -/
theorem fieldChars_append_underscore (s t : List Char) :
    fieldChars (s ++ '_' :: t) = fieldChars s ++ fieldChars t := by
  rw [fieldChars, words_append_underscore, List.flatMap_append]
  rfl

theorem fieldChars_intercalate (parts : List (List Char)) :
    fieldChars (['_'].intercalate parts) = parts.flatMap fieldChars := by
  induction parts with
  | nil => rfl
  | cons part parts ih =>
    cases parts with
    | nil => simp
    | cons second parts =>
      rw [List.intercalate_cons_cons, List.append_assoc, List.singleton_append,
        fieldChars_append_underscore, ih]
      rfl

theorem flatMap_filter_fieldChars (parts : List (List Char)) :
    (parts.filter (!·.isEmpty)).flatMap fieldChars = parts.flatMap fieldChars := by
  induction parts with
  | nil => rfl
  | cons part parts ih =>
    cases part with
    | nil => exact ih
    | cons c part => exact congrArg (fieldChars (c :: part) ++ ·) ih

/-- A field name is made of those of the pieces. -/
theorem fieldChars_eq_flatMap (s : List Char) :
    fieldChars s = ((s.splitOn '_').filter (!·.isEmpty)).flatMap fieldChars := by
  calc fieldChars s
    _ = fieldChars (['_'].intercalate (s.splitOn '_')) := by rw [List.intercalate_splitOn]
    _ = (s.splitOn '_').flatMap fieldChars := fieldChars_intercalate _
    _ = ((s.splitOn '_').filter (!·.isEmpty)).flatMap fieldChars :=
        (flatMap_filter_fieldChars _).symm

/-- A name without underscores is one word, unless nothing is left of it. -/
theorem fieldChars_of_piece (h : '_' ∉ s) : fieldChars s = capitalize (lower s) := by
  have hword : (lower s).splitOn '_' = [lower s] :=
    List.splitOn_eq_singleton (underscore_not_mem_lowerAfter h)
  rw [fieldChars, words, hword]
  cases lower s with
  | nil => rfl
  | cons c word => exact List.flatMap_singleton _ _

theorem toList_fieldName (name : String) : (fieldName name).toList = fieldChars name.toList :=
  String.toList_ofList

theorem fieldName_append_underscore (name other : String) :
    fieldName (name ++ "_" ++ other) = fieldName name ++ fieldName other := by
  apply String.toList_inj.mp
  have hname : (name ++ "_" ++ other).toList = name.toList ++ '_' :: other.toList := by simp
  rw [String.toList_append, toList_fieldName, toList_fieldName, toList_fieldName, hname,
    fieldChars_append_underscore]

/-- The field name of a name is made of those of its pieces, each with an upper case letter in front of
lower case. -/
theorem fieldName_eq_join (name : String) : fieldName name =
    String.join ((pieces name).map fun piece => String.ofList (capitalize (lower piece.toList))) := by
  apply String.toList_inj.mp
  rw [toList_fieldName, fieldChars_eq_flatMap, String.toList_join, pieces]
  simp only [List.flatMap_map, List.map_map, Function.comp_def, String.toList_ofList]
  apply List.flatMap_congr
  intro piece hpiece
  exact fieldChars_of_piece (not_mem_of_mem_splitOn (List.mem_filter.mp hpiece).1)

/-- Field names are made piece by piece: that of two names with an underscore between them is made of
theirs, and that of any name is made of its pieces, each put into its case by itself, wherever and however
often underscores stand. None has an underscore, so none is the reserved field, nor does a struct have a
column or a relation with that name. -/
theorem fieldName_of_pieces :
    (∀ name other : String, fieldName (name ++ "_" ++ other) = fieldName name ++ fieldName other) ∧
    (∀ name : String, fieldName name =
      String.join ((pieces name).map fun piece => String.ofList (capitalize (lower piece.toList)))) ∧
    (∀ name : String, '_' ∉ (fieldName name).toList) ∧
    (∀ name : String, fieldName name ≠ Tag.reservedField) ∧
    ∀ (cat : Catalog) (table : Table), Tag.reservedField ∉ cat.fieldNames table := by
  refine ⟨fieldName_append_underscore, fieldName_eq_join, underscore_not_mem_fieldName, ?_,
    fun _ _ => Catalog.reservedField_not_mem_fieldNames⟩
  intro name hname
  have hnone := underscore_not_mem_fieldName name
  rw [hname] at hnone
  exact hnone (by decide)

/-- The sigma before the underscore ends a word, and the one behind it does not. -/
example : fieldName "ΟΔΟΣ_ΣΙΓΜΑ__" = "ΟδοςΣιγμα" := by decide +kernel

end Naming

end RowTypes
