import RowTypes.Proofs.Region.Scan
import RowTypes.Proofs.Text.Case

/-!
Header lines: `type`, a name, `struct` and an opening brace, with blanks in between. A name without
blanks can be read off a line in one way only.

What is proved:
  1. `afterHeaderWords_eq_some`: the words of a header, as what they are.
  2. `isHeader_header`: the line that opens the struct of a type is a header of it.
  3. `eq_of_afterHeaderWords_header`: it declares no other type.
-/

namespace RowTypes.Region

open Text

/-- Blanks, at least one. -/
def Blanks (s : List Char) : Prop :=
  s ≠ [] ∧ ∀ c ∈ s, isBlank c

/-- No character is a blank. -/
def Unblank (s : List Char) : Prop :=
  ∀ c ∈ s, ¬isBlank c

instance (s : List Char) : Decidable (Blanks s) :=
  haveI := List.decidableBAll (fun c => isBlank c = true) s
  inferInstanceAs (Decidable (s ≠ [] ∧ ∀ c ∈ s, isBlank c))

instance (s : List Char) : Decidable (Unblank s) :=
  List.decidableBAll (fun c => ¬isBlank c) s

/-- The line that opens the struct of a type. -/
def header (name : List Char) : List Char :=
  "type ".toList ++ name ++ " struct \x7b".toList

theorem isWhite_of_isBlank {c : Char} (h : isBlank c) : isWhite c := by
  rcases (by simpa [isBlank] using h : c = ' ' ∨ c = '\t') with rfl | rfl <;> decide

section
variable {name other s t rest : List Char}

theorem unblank_of_unspaced (h : Unspaced s) : Unblank s :=
  fun c hc hblank => h c hc (isWhite_of_isBlank hblank)

/-- A text parts in one way into characters with a property and a rest that begins with none. -/
theorem prefix_unique {p : Char → Bool} {s' t' : List Char} (hs : ∀ c ∈ s, p c) (hs' : ∀ c ∈ s', p c)
    (ht : ¬t.head?.any p) (ht' : ¬t'.head?.any p) (heq : s ++ t = s' ++ t') : s = s' ∧ t = t' := by
  induction s generalizing s' with
  | nil =>
    cases s' with
    | nil => exact ⟨rfl, heq⟩
    | cons c s' =>
      rw [List.nil_append] at heq
      rw [heq] at ht
      exact absurd (hs' c (by simp)) (by simpa using ht)
  | cons c s ih =>
    cases s' with
    | nil =>
      rw [List.nil_append] at heq
      rw [← heq] at ht'
      exact absurd (hs c (by simp)) (by simpa using ht')
    | cons c' s' =>
      obtain ⟨rfl, htail⟩ := List.cons.inj heq
      obtain ⟨rfl, rfl⟩ := ih (fun d hd => hs d (by simp [hd])) (fun d hd => hs' d (by simp [hd])) htail
      exact ⟨rfl, rfl⟩

/-! ## Words and blanks -/

theorem Blanks.append (hs : Blanks s) (ht : Blanks t) : Blanks (s ++ t) := by
  refine ⟨by simp [hs.1], fun c hc => ?_⟩
  rcases List.mem_append.mp hc with hmem | hmem
  · exact hs.2 c hmem
  · exact ht.2 c hmem

theorem afterWord_eq_some {word : List Char} : afterWord word s = some rest ↔ s = word ++ rest := by
  unfold afterWord
  split
  · next h =>
    obtain ⟨tail, rfl⟩ := List.isPrefixOf_iff_prefix.mp h
    simp
  · next h =>
    simp only [reduceCtorEq, false_iff]
    rintro rfl
    exact h (List.isPrefixOf_iff_prefix.mpr ⟨rest, rfl⟩)

theorem exists_of_afterBlanks {next : List Char → Option (List Char)}
    (h : afterBlanks next s = some rest) :
    ∃ blanks tail, Blanks blanks ∧ s = blanks ++ tail ∧ next tail = some rest := by
  induction s with
  | nil => simp [afterBlanks] at h
  | cons c s ih =>
    simp only [afterBlanks] at h
    split at h
    · next hc =>
      cases hmore : afterBlanks next s with
      | none =>
        refine ⟨[c], s, ⟨by simp, by simpa using hc⟩, rfl, ?_⟩
        simpa [hmore] using h
      | some found =>
        rw [hmore] at h
        cases h
        obtain ⟨blanks, tail, hblanks, rfl, htail⟩ := ih hmore
        refine ⟨c :: blanks, tail, ⟨by simp, ?_⟩, rfl, htail⟩
        simpa [hc] using hblanks.2
    · simp at h

theorem isSome_afterBlanks {next : List Char → Option (List Char)} {blanks : List Char}
    (hblanks : Blanks blanks) (h : next s = some rest) :
    (afterBlanks next (blanks ++ s)).isSome := by
  obtain ⟨hne, hall⟩ := hblanks
  induction blanks with
  | nil => exact absurd rfl hne
  | cons c blanks ih =>
    have hc : isBlank c := hall c (by simp)
    simp only [List.cons_append, afterBlanks, hc, if_true]
    cases blanks with
    | nil => cases hmore : afterBlanks next s <;> simp [h, hmore]
    | cons d blanks =>
      have hmore := ih (by simp) fun e he => hall e (by simp [he])
      obtain ⟨found, hfound⟩ := Option.isSome_iff_exists.mp hmore
      rw [hfound]
      rfl

theorem afterBlanks_eq_some {next : List Char → Option (List Char)}
    (hunique : ∀ {b b' t t' r r'}, Blanks b → Blanks b' → b ++ t = b' ++ t' → next t = some r →
      next t' = some r' → r = r') :
    afterBlanks next s = some rest ↔
      ∃ blanks tail, Blanks blanks ∧ s = blanks ++ tail ∧ next tail = some rest := by
  refine ⟨exists_of_afterBlanks, ?_⟩
  rintro ⟨blanks, tail, hblanks, rfl, htail⟩
  obtain ⟨found, hfound⟩ := Option.isSome_iff_exists.mp (isSome_afterBlanks hblanks htail)
  obtain ⟨blanks', tail', hblanks', heq, htail'⟩ := exists_of_afterBlanks hfound
  rw [hfound, hunique hblanks hblanks' heq htail htail']

theorem not_any_isBlank_append {word : List Char} (hword : Unblank word) (hne : word ≠ []) :
    ¬(word ++ rest).head?.any isBlank := by
  cases word with
  | nil => exact absurd rfl hne
  | cons c word => simpa using hword c (by simp)

theorem not_any_isBlank_struct (rest : List Char) : ¬("struct".toList ++ rest).head?.any isBlank :=
  not_any_isBlank_append (by decide) (by decide)

theorem struct_unique {b b' r r' : List Char} (hb : Blanks b) (hb' : Blanks b')
    (heq : b ++ ("struct".toList ++ r) = b' ++ ("struct".toList ++ r')) : r = r' :=
  List.append_cancel_left
    (prefix_unique hb.2 hb'.2 (not_any_isBlank_struct r) (not_any_isBlank_struct r') heq).2

theorem afterStruct_eq_some : afterBlanks (afterWord "struct".toList) s = some rest ↔
    ∃ blanks, Blanks blanks ∧ s = blanks ++ "struct".toList ++ rest := by
  rw [afterBlanks_eq_some]
  · simp [afterWord_eq_some]
  · intro b b' t t' r r' hb hb' heq ht ht'
    rw [afterWord_eq_some] at ht ht'
    subst ht ht'
    exact struct_unique hb hb' heq

theorem name_unique {b b' t t' r r' : List Char} (hname : Unblank name) (hb : Blanks b)
    (hb' : Blanks b') (heq : b ++ (name ++ t) = b' ++ (name ++ t'))
    (ht : afterBlanks (afterWord "struct".toList) t = some r)
    (ht' : afterBlanks (afterWord "struct".toList) t' = some r') : r = r' := by
  rw [afterStruct_eq_some] at ht ht'
  obtain ⟨gap, hgap, rfl⟩ := ht
  obtain ⟨gap', hgap', rfl⟩ := ht'
  cases name with
  | nil =>
    exact struct_unique (hb.append hgap) (hb'.append hgap') (by simpa using heq)
  | cons c name =>
    have hhead (t : List Char) : ¬(c :: name ++ t).head?.any isBlank :=
      not_any_isBlank_append hname (by simp)
    have htail := List.append_cancel_left
      (prefix_unique hb.2 hb'.2 (hhead _) (hhead _) heq).2
    rw [List.append_assoc, List.append_assoc] at htail
    exact struct_unique hgap hgap' htail

/-- The words of a header, for a name without blanks. -/
theorem afterHeaderWords_eq_some (hname : Unblank name) : afterHeaderWords name s = some rest ↔
    ∃ b gap, Blanks b ∧ Blanks gap ∧
      s = "type".toList ++ (b ++ (name ++ (gap ++ ("struct".toList ++ rest)))) := by
  unfold afterHeaderWords
  simp only [Option.bind_eq_some_iff, afterWord_eq_some]
  constructor
  · rintro ⟨tail, rfl, hwords⟩
    obtain ⟨b, tail, hb, rfl, hname⟩ := exists_of_afterBlanks hwords
    simp only [Option.bind_eq_some_iff, afterWord_eq_some] at hname
    obtain ⟨after, rfl, hstruct⟩ := hname
    obtain ⟨gap, hgap, rfl⟩ := afterStruct_eq_some.mp hstruct
    exact ⟨b, gap, hb, hgap, by simp⟩
  · rintro ⟨b, gap, hb, hgap, rfl⟩
    refine ⟨_, rfl, (afterBlanks_eq_some ?_).mpr ⟨b, _, hb, rfl, ?_⟩⟩
    · intro b b' t t' r r' hb hb' heq ht ht'
      simp only [Option.bind_eq_some_iff, afterWord_eq_some] at ht ht'
      obtain ⟨after, rfl, ht⟩ := ht
      obtain ⟨after', rfl, ht'⟩ := ht'
      exact name_unique hname hb hb' heq ht ht'
    · simp only [Option.bind_eq_some_iff, afterWord_eq_some]
      exact ⟨_, rfl, afterStruct_eq_some.mpr ⟨gap, hgap, by simp⟩⟩

/-! ## Headers -/

theorem header_def (name : List Char) :
    header name = "type ".toList ++ name ++ " struct \x7b".toList := rfl

theorem header_eq (name : List Char) : header name =
    "type".toList ++ ([' '] ++ (name ++ ([' '] ++ ("struct".toList ++ " \x7b".toList)))) := by
  simp [header_def]

/-- The line that opens the struct of a type is a header of it. -/
theorem isHeader_header (hname : Unblank name) : isHeader name (header name) := by
  have hwords : afterHeaderWords name (header name) = some " \x7b".toList :=
    (afterHeaderWords_eq_some hname).mpr ⟨[' '], [' '], by decide, by decide, header_eq name⟩
  rw [isHeader, hwords]
  decide

theorem word_unique {word word' gap gap' t t' : List Char} (hword : Unblank word)
    (hword' : Unblank word') (hgap : Blanks gap) (hgap' : Blanks gap')
    (heq : word ++ (gap ++ t) = word' ++ (gap' ++ t')) :
    word = word' ∧ gap ++ t = gap' ++ t' := by
  have hink {s : List Char} (hs : Unblank s) : ∀ c ∈ s, (fun c => !isBlank c) c :=
    fun c hc => by simpa using hs c hc
  have hhead {b : List Char} (hb : Blanks b) (t : List Char) :
      ¬(b ++ t).head?.any fun c => !isBlank c := by
    obtain ⟨hne, hall⟩ := hb
    cases b with
    | nil => exact absurd rfl hne
    | cons c b => simpa using hall c (by simp)
  exact prefix_unique (hink hword) (hink hword') (hhead hgap t) (hhead hgap' t') heq

/-- It declares no other type. -/
theorem eq_of_afterHeaderWords_header (hname : Unblank name) (hother : Unblank other)
    (hwords : afterHeaderWords name (header other) = some rest) : name = other := by
  obtain ⟨b, gap, hb, hgap, heq⟩ := (afterHeaderWords_eq_some hname).mp hwords
  rw [header_eq] at heq
  have heq := List.append_cancel_left heq
  have hstruct := not_any_isBlank_struct
  have hspace : Blanks [' '] := by decide
  cases name with
  | nil =>
    cases other with
    | nil => rfl
    | cons c other =>
      have hsplit : [' '] ++ (c :: other ++ ([' '] ++ ("struct".toList ++ " \x7b".toList))) =
          (b ++ gap) ++ ("struct".toList ++ rest) := by simpa using heq
      have hone : [' '] = b ++ gap := (prefix_unique hspace.2 (hb.append hgap).2
        (not_any_isBlank_append hother (by simp)) (hstruct _) hsplit).1
      have hlen := congrArg List.length hone
      have hbne := List.length_pos_iff.mpr hb.1
      have hgapne := List.length_pos_iff.mpr hgap.1
      simp only [List.length_singleton, List.length_append] at hlen
      omega
  | cons c name =>
    have hhead : ¬(c :: name ++ (gap ++ ("struct".toList ++ rest))).head?.any isBlank :=
      not_any_isBlank_append hname (by simp)
    cases other with
    | nil =>
      have htail := (prefix_unique (s := "  ".toList) (t := "struct".toList ++ " \x7b".toList)
        (show Blanks "  ".toList by decide).2 hb.2 (hstruct _) hhead (by simpa using heq)).2
      have hword : Unblank "struct".toList := by decide
      have hgaps : [' '] ++ ['\x7b'] = gap ++ ("struct".toList ++ rest) :=
        (word_unique hword hname hspace hgap htail).2
      have hbrace := (prefix_unique (s := [' ']) (t := ['\x7b']) hspace.2 hgap.2 (by decide)
        (hstruct rest) hgaps).2
      simp at hbrace
    | cons d other =>
      have htail := (prefix_unique hspace.2 hb.2 (not_any_isBlank_append hother (by simp)) hhead
        heq).2
      exact (word_unique hother hname hspace hgap htail).1.symm

theorem eq_of_isHeader_header (hname : Unblank name) (hother : Unblank other)
    (h : isHeader name (header other)) : name = other := by
  unfold isHeader at h
  obtain ⟨rest, hwords, -⟩ := (Option.any_eq_true _ _).mp h
  exact eq_of_afterHeaderWords_header hname hother hwords

end

end RowTypes.Region
