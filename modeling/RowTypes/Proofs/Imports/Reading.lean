import RowTypes.Proofs.Imports.Entries
import RowTypes.Proofs.Naming
import RowTypes.Proofs.Text.Trim

/-!
Reading clauses that were written. An entry that was read once is read again from what is written of
it, except that a line of a bracketed list that begins with two slashes is a comment.

What is proved:
  1. `legible_of_parseSpec`, `parseSpec_written`: entries that are read, and reading them again.
  2. `exists_of_found`, `exists_of_find?`: the lines and the entries of a clause that is found.
  3. `find?_append_render`: the clause that is found in front of lines is the one that was written.
-/

namespace RowTypes

open Text

namespace Imports

open ImportEntries

/-! ## Entries -/

/-- The entry of a path with an alias, which may be empty. -/
def entryOf (name path : List Char) : ImportEntry :=
  if name.isEmpty then plain (String.ofList path)
  else { plain (String.ofList path) with
    written := String.ofList name ++ " " ++ (plain (String.ofList path)).written }

/-- What an entry looks like that was read from one line: an alias without white space and a path. -/
def Readable (entry : ImportEntry) : Prop :=
  ∃ name path, Unspaced name ∧ '"' ∉ name ∧ '"' ∉ path ∧ '\n' ∉ path ∧ entry = entryOf name path

/-- What an entry looks like that was read at all. A line of a list of lines may hold line feeds, and
then so may the path. -/
def Legible (entry : ImportEntry) : Prop :=
  ∃ name path, Unspaced name ∧ '"' ∉ name ∧ '"' ∉ path ∧ entry = entryOf name path

variable {entry : ImportEntry} {entries : ImportEntries} {name path before spec : List Char}

/-- An alias and the blank behind it. -/
def aliasPart (name : List Char) : List Char :=
  if name = [] then [] else name ++ [' ']

theorem written_entryOf (name path : List Char) : (entryOf name path).written.toList =
    aliasPart name ++ '"' :: (path ++ ['"']) := by
  unfold entryOf aliasPart
  cases name <;> simp [plain]

theorem Readable.legible (h : Readable entry) : Legible entry := by
  obtain ⟨name, path, hname, hquote, hpath, -, heq⟩ := h
  exact ⟨name, path, hname, hquote, hpath, heq⟩

theorem legible_plain {package : String} (hquote : '"' ∉ package.toList) : Legible (plain package) :=
  ⟨[], package.toList, by simp, by simp, hquote, by simp [entryOf]⟩

theorem readable_plain {package : String} (hquote : '"' ∉ package.toList)
    (hclean : '\n' ∉ package.toList) : Readable (plain package) :=
  ⟨[], package.toList, by simp, by simp, hquote, hclean, by simp [entryOf]⟩

theorem parseSpec_append (hbefore : '"' ∉ before) (hpath : '"' ∉ path) (rest : List Char) :
    parseSpec (before ++ '"' :: (path ++ '"' :: rest)) =
      if (trim before).any isWhite then none else some (entryOf (trim before) path) := by
  simp only [parseSpec, span_append hbefore, span_append hpath]
  rfl

theorem exists_of_parseSpec (h : parseSpec spec = some entry) : ∃ before path rest,
    spec = before ++ '"' :: (path ++ '"' :: rest) ∧ '"' ∉ before ∧ '"' ∉ path ∧
      Unspaced (trim before) ∧ entry = entryOf (trim before) path := by
  have hparse := h
  unfold parseSpec at h
  split at h
  · simp at h
  · next before quote rest hfirst =>
    obtain ⟨rfl, hbefore⟩ := exists_of_span hfirst
    split at h
    · simp at h
    · next path quote' tail hsecond =>
      obtain ⟨rfl, hpath⟩ := exists_of_span hsecond
      rw [parseSpec_append hbefore hpath] at hparse
      split at hparse
      · simp at hparse
      · next hwhite =>
        refine ⟨before, path, tail, rfl, hbefore, hpath, ?_, (Option.some.inj hparse).symm⟩
        intro c hc hspace
        exact hwhite (List.any_eq_true.mpr ⟨c, hc, hspace⟩)

/-- An entry that is read can be read again. -/
theorem legible_of_parseSpec (h : parseSpec spec = some entry) : Legible entry := by
  obtain ⟨before, path, rest, -, hbefore, hpath, hname, rfl⟩ := exists_of_parseSpec h
  exact ⟨trim before, path, hname, fun hmem => hbefore (mem_of_mem_trim hmem), hpath, rfl⟩

theorem readable_of_parseSpec (hspec : '\n' ∉ spec) (h : parseSpec spec = some entry) :
    Readable entry := by
  obtain ⟨before, path, rest, rfl, hbefore, hpath, hname, rfl⟩ := exists_of_parseSpec h
  refine ⟨trim before, path, hname, fun hmem => hbefore (mem_of_mem_trim hmem), hpath, ?_, rfl⟩
  exact fun hmem => hspec (by simp [hmem])

theorem trim_aliasPart (h : Unspaced name) : trim (aliasPart name) = name := by
  unfold aliasPart
  split
  · next hempty => rw [hempty]; rfl
  · exact trim_around (show White [] by decide) (show White [' '] by decide) h

/-- An entry is read again from what is written of it. -/
theorem parseSpec_written (h : Legible entry) : parseSpec entry.written.toList = some entry := by
  obtain ⟨name, path, hname, hquote, hpath, rfl⟩ := h
  have halias : '"' ∉ aliasPart name := by
    unfold aliasPart
    split <;> simp [hquote]
  rw [written_entryOf, parseSpec_append halias hpath, trim_aliasPart hname]
  have hwhite : ¬name.any isWhite := fun hany => by
    obtain ⟨c, hc, hspace⟩ := List.any_eq_true.mp hany
    exact hname c hc hspace
  rw [if_neg hwhite]

/-! ## Clauses that are found -/

/-- All entries can be read again. -/
def AllReadable (entries : ImportEntries) : Prop :=
  ∀ entry ∈ entries, Readable entry

/-- Entries as they come out of a clause: in order, and fit to be read again. -/
structure WellRead (entries : ImportEntries) : Prop where
  sorted : Sorted entries
  readable : AllReadable entries

theorem wellRead_nil : WellRead [] :=
  ⟨List.Pairwise.nil, fun entry hentry => by simp at hentry⟩

/-- Entries in order, all with a property of what is read. -/
structure InOrder (P : ImportEntry → Prop) (entries : ImportEntries) : Prop where
  sorted : Sorted entries
  each : ∀ entry ∈ entries, P entry

theorem WellRead.legible (h : WellRead entries) : InOrder Legible entries :=
  ⟨h.sorted, fun entry hentry => (h.readable entry hentry).legible⟩

section
variable {P : ImportEntry → Prop}

theorem inOrder_nil : InOrder P [] :=
  ⟨List.Pairwise.nil, fun entry hentry => by simp at hentry⟩

theorem InOrder.insert (h : InOrder P entries) (hentry : P entry) :
    InOrder P (ImportEntries.insert entry entries) where
  sorted := h.sorted.insert entry
  each := by
    intro other hother
    rcases mem_insert hother with rfl | hmem
    · exact hentry
    · exact h.each other hmem

theorem InOrder.addPackages {packages : Packages} (h : InOrder P entries)
    (hplain : ∀ path ∈ packages, P (plain path)) : InOrder P (addPackages entries packages) where
  sorted := sorted_addPackages h.sorted packages
  each := by
    intro entry hentry
    rcases mem_addPackages hentry with hmem | ⟨path, hpath, rfl⟩
    · exact h.each entry hmem
    · exact hplain path hpath

theorem inOrder_of_parseSpecs {specs : List (List Char)} {found : ImportEntries}
    (hspecs : ∀ spec ∈ specs, ∀ entry, parseSpec spec = some entry → P entry) (h : InOrder P entries)
    (hok : parseSpecs entries specs = some found) : InOrder P found := by
  induction specs generalizing entries with
  | nil => cases hok; exact h
  | cons spec rest ih =>
    obtain ⟨hspec, hrest⟩ := List.forall_mem_cons.mp hspecs
    unfold parseSpecs at hok
    split at hok
    · simp at hok
    · next entry hentry => exact ih hrest (h.insert (hspec entry hentry)) hok

/-- The property of all that is read from a part of one of the lines. -/
def Reads (P : ImportEntry → Prop) (lines : List String) : Prop :=
  ∀ line ∈ lines, ∀ spec, spec ⊆ line.toList → ∀ entry, parseSpec spec = some entry → P entry

theorem reads_legible (lines : List String) : Reads Legible lines :=
  fun _ _ _ _ _ hentry => legible_of_parseSpec hentry

end

/-- No line holds a line feed. -/
def CleanLines (lines : List String) : Prop :=
  ∀ line ∈ lines, '\n' ∉ line.toList

theorem CleanLines.reads {lines : List String} (h : CleanLines lines) : Reads Readable lines :=
  fun line hline _ hspec _ hentry => readable_of_parseSpec (fun hfeed => h line hline (hspec hfeed)) hentry

/-- A line that a bracketed list may hold. -/
def IsListed (line : String) : Prop :=
  trim line.toList ≠ [')'] ∧
    (isCommentOrBlank (trim line.toList) ∨ (parseSpec (trim line.toList)).isSome)

/-- The lines of a clause: one line, or a bracketed list down to its parenthesis. -/
inductive IsClause : List String → Prop where
  | one {line : String} (opens : isImportLine line) : IsClause [line]
  | list {line paren : String} {inside : List String} (opens : isImportLine line)
      (listed : ∀ other ∈ inside, IsListed other) (closes : trim paren.toList = [')']) :
      IsClause (line :: (inside ++ [paren]))

theorem IsClause.exists_cons {lines : List String} (h : IsClause lines) :
    ∃ line rest, lines = line :: rest ∧ isImportLine line := by
  cases h with
  | one opens => exact ⟨_, [], rfl, opens⟩
  | list opens => exact ⟨_, _, rfl, opens⟩

section
variable {P : ImportEntry → Prop} {lines rest : List String} {start index : Nat} {clause : Clause}

theorem exists_of_parseBracketed (hlines : Reads P lines) (h : InOrder P entries)
    (hok : parseBracketed start index entries lines = .ok clause) :
    InOrder P clause.entries ∧ clause.start = start ∧ ∃ inside paren rest,
      lines = inside ++ paren :: rest ∧ (∀ line ∈ inside, IsListed line) ∧
      trim paren.toList = [')'] ∧ clause.stop = index + inside.length + 1 := by
  induction lines generalizing index entries with
  | nil => simp [parseBracketed] at hok
  | cons line rest ih =>
    obtain ⟨hline, hrest⟩ := List.forall_mem_cons.mp hlines
    unfold parseBracketed at hok
    dsimp only at hok
    split at hok
    · next hclose =>
      cases hok
      exact ⟨h, rfl, [], line, rest, rfl, by simp, hclose, rfl⟩
    · next hopen =>
      have hmore {entries : ImportEntries} (h : InOrder P entries) (hlisted : IsListed line)
          (hok : parseBracketed start (index + 1) entries rest = .ok clause) :
          InOrder P clause.entries ∧ clause.start = start ∧ ∃ inside paren tail,
            line :: rest = inside ++ paren :: tail ∧ (∀ line ∈ inside, IsListed line) ∧
            trim paren.toList = [')'] ∧ clause.stop = index + inside.length + 1 := by
        obtain ⟨hread, hstart, inside, paren, tail, rfl, hinside, hparen, hstop⟩ := ih hrest h hok
        refine ⟨hread, hstart, line :: inside, paren, tail, rfl, ?_, hparen, ?_⟩
        · intro other hother
          rcases List.mem_cons.mp hother with rfl | hmem
          · exact hlisted
          · exact hinside other hmem
        · rw [hstop, List.length_cons]
          omega
      split at hok
      · next hcomment => exact hmore h ⟨hopen, .inl hcomment⟩ hok
      · split at hok
        · simp at hok
        · next entry hentry =>
          exact hmore (h.insert (hline _ (fun _ => mem_of_mem_trim) entry hentry))
            ⟨hopen, .inr (by rw [hentry]; rfl)⟩ hok

theorem subset_of_mem_specsOf {body : List Char} (h : spec ∈ specsOf body) : spec ⊆ body := by
  unfold specsOf at h
  split at h
  · next inner hinner =>
    have hmem := (List.mem_filter.mp h).1
    intro c hc
    have hin : c ∈ inner := Naming.mem_of_mem_splitOn hmem hc
    unfold parenthesized? at hinner
    split at hinner
    · split at hinner
      · cases hinner
        exact List.mem_cons_of_mem _ ((List.dropLast_sublist _).subset hin)
      · simp at hinner
    · simp at hinner
  · rw [List.mem_singleton.mp h]
    exact List.Subset.refl _

theorem exists_of_parseClause {line : String} (hlines : Reads P (line :: rest))
    (hopens : isImportLine line) (hok : parseClause start line rest = .ok clause) :
    InOrder P clause.entries ∧ clause.start = start ∧ ∃ old after, line :: rest = old ++ after ∧
      IsClause old ∧ clause.stop = start + old.length := by
  obtain ⟨hline, hrest⟩ := List.forall_mem_cons.mp hlines
  unfold parseClause at hok
  dsimp only at hok
  split at hok
  · obtain ⟨hread, hstart, inside, paren, tail, rfl, hinside, hparen, hstop⟩ :=
      exists_of_parseBracketed hrest inOrder_nil hok
    refine ⟨hread, hstart, line :: (inside ++ [paren]), tail, by simp,
      .list hopens hinside hparen, ?_⟩
    simp only [hstop, List.length_cons, List.length_append, List.length_nil]
    omega
  · split at hok
    · simp at hok
    · simp at hok
    · next entries hspecs =>
      cases hok
      refine ⟨inOrder_of_parseSpecs (fun spec hspec => hline spec fun c hc => ?_) inOrder_nil hspecs, rfl,
        [line], rest, rfl, .one hopens, rfl⟩
      exact mem_of_mem_trim (List.mem_of_mem_drop (mem_of_mem_trim (subset_of_mem_specsOf hspec hc)))

/-- A clause that is found begins with the first line that may be one, and its entries have the property
of what is read from the lines. -/
theorem exists_of_found (hlines : Reads P lines) (hok : find? lines = .ok (some clause)) :
    InOrder P clause.entries ∧ clause.start < lookahead ∧
      ∃ before old after, lines = before ++ (old ++ after) ∧ (∀ line ∈ before, ¬isImportLine line) ∧
        IsClause old ∧ clause.start = before.length ∧ clause.stop = before.length + old.length := by
  unfold find? at hok
  split at hok
  · simp at hok
  · next start hstart =>
    obtain ⟨hlt, hopens, hbefore⟩ := List.findIdx?_eq_some_iff_getElem.mp hstart
    rw [List.length_take] at hlt
    rw [List.drop_eq_getElem_cons (by omega)] at hok
    dsimp only at hok
    split at hok
    · simp at hok
    · next clause' hclause =>
      cases hok
      rw [List.getElem_take] at hopens
      have hrest : Reads P (lines[start] :: lines.drop (start + 1)) := by
        rw [← List.drop_eq_getElem_cons (by omega)]
        exact fun other hother => hlines other (List.mem_of_mem_drop hother)
      obtain ⟨hread, rfl, old, after, hsplit, hold, hstop⟩ := exists_of_parseClause hrest hopens hclause
      have hlength : (lines.take clause.start).length = clause.start := by
        rw [List.length_take]
        omega
      refine ⟨hread, by omega, lines.take clause.start, old, after, ?_, ?_, hold, hlength.symm, ?_⟩
      · rw [← hsplit, ← List.drop_eq_getElem_cons, List.take_append_drop]
      · intro other hother
        obtain ⟨i, hi, rfl⟩ := List.mem_take_iff_getElem.mp hother
        have := hbefore i (by omega)
        simpa using this
      · rw [hstop, hlength]

/-- In lines without line feeds, the entries of a clause that is found are well read. -/
theorem exists_of_find? (hlines : CleanLines lines) (hok : find? lines = .ok (some clause)) :
    WellRead clause.entries ∧ clause.start < lookahead ∧
      ∃ before old after, lines = before ++ (old ++ after) ∧ (∀ line ∈ before, ¬isImportLine line) ∧
        IsClause old ∧ clause.start = before.length ∧ clause.stop = before.length + old.length := by
  obtain ⟨hread, hplace⟩ := exists_of_found hlines.reads hok
  exact ⟨⟨hread.sorted, hread.each⟩, hplace⟩

end

/-! ## Clauses that were written -/

/-- The entry is lost in a bracketed list, where it looks like a comment. -/
def Commented (entry : ImportEntry) : Prop :=
  ['/', '/'] <+: entry.written.toList

instance (entry : ImportEntry) : Decidable (Commented entry) :=
  inferInstanceAs (Decidable (_ <+: _))

theorem ends_of_legible (h : Legible entry) :
    entry.written.toList.getLast? = some '"' ∧ trim entry.written.toList = entry.written.toList := by
  obtain ⟨name, path, hname, -, -, rfl⟩ := h
  have hlast : (entryOf name path).written.toList.getLast? = some '"' := by
    rw [written_entryOf]
    simp [List.getLast?_append, List.getLast?_cons]
  refine ⟨hlast, trim_of_ends (fun c hc => ?_) fun c hc => ?_⟩
  · rw [written_entryOf, aliasPart] at hc
    cases name with
    | nil =>
      have hc : '"' = c := by simpa using hc
      rw [← hc]
      decide
    | cons d rest =>
      have hc : d = c := by simpa using hc
      rw [← hc]
      exact (unspaced_cons.mp hname).1
  · rw [hlast] at hc
    rw [← Option.some.inj hc]
    decide

theorem isCommentOrBlank_iff (h : Legible entry) :
    isCommentOrBlank entry.written.toList ↔ Commented entry := by
  have hlast := (ends_of_legible h).1
  have hne : entry.written.toList.isEmpty = false := by
    cases hchars : entry.written.toList with
    | nil => simp [hchars] at hlast
    | cons c rest => rfl
  simp [isCommentOrBlank, hne, Commented, List.isPrefixOf_iff_prefix]

theorem parseBracketed_entries (h : ∀ entry ∈ entries, Legible entry) (start index : Nat) (done : ImportEntries)
    (rest : List String) :
    parseBracketed start index done (entries.map (fun entry => "\t" ++ entry.written) ++ ")" :: rest) =
      .ok ⟨start, index + entries.length + 1,
        (entries.filter fun entry => ¬Commented entry).foldl (fun set entry => ImportEntries.insert entry set)
          done⟩ := by
  induction entries generalizing index done with
  | nil =>
    have hclose : trim ")".toList = [')'] := by decide
    rw [List.map_nil, List.nil_append, parseBracketed]
    simp only [if_pos hclose]
    rfl
  | cons entry entries ih =>
    obtain ⟨hentry, hrest⟩ := List.forall_mem_cons.mp h
    obtain ⟨hlast, htrim⟩ := ends_of_legible hentry
    have hline : trim ("\t" ++ entry.written).toList = entry.written.toList := by
      rw [String.toList_append]
      exact (trim_cons_of_isWhite (by decide)).trans htrim
    have hparen : entry.written.toList ≠ [')'] := fun heq => by simp [heq] at hlast
    rw [List.map_cons, List.cons_append, parseBracketed]
    simp only [hline, if_neg hparen]
    by_cases hcomment : Commented entry
    · rw [if_pos ((isCommentOrBlank_iff hentry).mpr hcomment), ih hrest]
      simp [hcomment]
      omega
    · rw [if_neg fun hblank => hcomment ((isCommentOrBlank_iff hentry).mp hblank)]
      rw [parseSpec_written hentry]
      simp only [ih hrest]
      simp [hcomment]
      omega

/-- The entries that a written clause gives back. -/
def kept (entries : ImportEntries) : ImportEntries :=
  if entries.length ≤ 1 then entries else entries.filter fun entry => ¬Commented entry

theorem kept_of_uncommented (h : ∀ entry ∈ entries, ¬Commented entry) : kept entries = entries := by
  unfold kept
  split
  · rfl
  · exact List.filter_eq_self.mpr fun entry hentry => by simpa using h entry hentry

theorem isImportLine_of_keyword {c : Char} {line : String} {rest : List Char}
    (h : line.toList = keyword ++ c :: rest) (hc : mayFollowKeyword (c :: rest)) :
    isImportLine line := by
  have htrim : trimStart line.toList = keyword ++ c :: rest := by
    rw [h]
    exact trimStart_of_head? fun d hd => by
      have hd : 'i' = d := by simpa [keyword_eq] using hd
      rw [← hd]
      decide
  have hprefix : keyword.isPrefixOf (keyword ++ c :: rest) :=
    List.isPrefixOf_iff_prefix.mpr ⟨_, rfl⟩
  rw [isImportLine, htrim, hprefix, List.drop_left, hc]
  rfl

theorem not_parenthesized {s : List Char} (h : s.getLast? = some '"') : parenthesized? s = none := by
  unfold parenthesized?
  split
  · next inner =>
    have hinner : inner.getLast? ≠ some ')' := by
      intro hparen
      simp [List.getLast?_cons, hparen] at h
    rw [if_neg hinner]
  · rfl

theorem toList_single (entry : ImportEntry) :
    ("import " ++ entry.written).toList = keyword ++ ' ' :: entry.written.toList := by
  simp [keyword_eq]

theorem parseClause_single (h : Legible entry) (start : Nat) (rest : List String) :
    parseClause start ("import " ++ entry.written) rest = .ok ⟨start, start + 1, [entry]⟩ := by
  obtain ⟨hlast, htrim⟩ := ends_of_legible h
  have hline : trim ("import " ++ entry.written).toList = keyword ++ ' ' :: entry.written.toList := by
    rw [toList_single]
    refine trim_of_ends (fun c hc => ?_) fun c hc => ?_
    · have hc : 'i' = c := by simpa [keyword_eq] using hc
      rw [← hc]
      decide
    · rw [List.getLast?_append, List.getLast?_cons] at hc
      have hc : '"' = c := by simpa [hlast] using hc
      rw [← hc]
      decide
  have hbody : trim ((trim ("import " ++ entry.written).toList).drop keyword.length) =
      entry.written.toList := by
    rw [hline, List.drop_left, trim_cons_of_isWhite (by decide), htrim]
  have hopen : entry.written.toList ≠ ['('] := fun heq => by simp [heq] at hlast
  have hspecs : specsOf entry.written.toList = [entry.written.toList] := by
    rw [specsOf, not_parenthesized hlast]
  simp only [parseClause, hbody, if_neg hopen, hspecs, parseSpecs, parseSpec_written h]
  rfl

theorem parseClause_list (h : InOrder Legible entries) (start : Nat) (rest : List String) :
    parseClause start "import (" (entries.map (fun entry => "\t" ++ entry.written) ++ ")" :: rest) =
      .ok ⟨start, start + 1 + entries.length + 1, entries.filter fun entry => ¬Commented entry⟩ := by
  have hbody : trim ((trim "import (".toList).drop keyword.length) = ['('] := by decide
  have hsorted : Sorted ([] ++ entries.filter fun entry => ¬Commented entry) :=
    h.sorted.sublist List.filter_sublist
  simp only [parseClause, hbody, if_true, parseBracketed_entries h.each]
  rw [foldl_insert hsorted, List.nil_append]

/-- A written clause is read back, except for what looks like a comment. -/
theorem parseClause_render (h : InOrder Legible entries) (hne : entries ≠ []) (start : Nat)
    (rest : List String) : ∃ line tail, render entries = line :: tail ∧ isImportLine line ∧
      parseClause start line (tail ++ rest) =
        .ok ⟨start, start + (render entries).length, kept entries⟩ := by
  match entries, hne with
  | [entry], _ =>
    exact ⟨_, [], rfl, isImportLine_of_keyword (toList_single entry) (by rfl),
      parseClause_single (h.each entry List.mem_cons_self) start rest⟩
  | first :: second :: others, _ =>
    refine ⟨"import (", (first :: second :: others).map (fun entry => "\t" ++ entry.written) ++ [")"],
      rfl, by decide, ?_⟩
    rw [List.append_assoc, List.singleton_append, parseClause_list h]
    simp [kept, render]
    omega

theorem find?_of_forall_not {lines : List String}
    (h : ∀ line ∈ lines.take lookahead, ¬isImportLine line) : find? lines = .ok none := by
  have hnone : (lines.take lookahead).findIdx? isImportLine = none :=
    List.findIdx?_eq_none_iff.mpr fun line hline => by simpa using h line hline
  rw [find?, hnone]

theorem find?_append_cons {before : List String} (hbefore : ∀ line ∈ before, ¬isImportLine line)
    (hlt : before.length < lookahead) {line : String} (hline : isImportLine line)
    (rest : List String) :
    find? (before ++ line :: rest) = (parseClause before.length line rest).map some := by
  have hsplit : (before ++ line :: rest).take lookahead =
      before ++ line :: rest.take (lookahead - before.length - 1) := by
    obtain ⟨k, hk⟩ : ∃ k, lookahead - before.length = k + 1 :=
      ⟨lookahead - before.length - 1, by omega⟩
    rw [List.take_append, List.take_of_length_le (Nat.le_of_lt hlt), hk, List.take_succ_cons]
    rfl
  have hstart : ((before ++ line :: rest).take lookahead).findIdx? isImportLine =
      some before.length := by
    have hnone : before.findIdx? isImportLine = none :=
      List.findIdx?_eq_none_iff.mpr fun other hother => by simpa using hbefore other hother
    rw [hsplit, List.findIdx?_append, hnone]
    simp [List.findIdx?_cons, hline]
  simp only [find?, hstart, List.drop_left]
  cases parseClause before.length line rest <;> rfl

/-- A written clause is found behind lines that begin none, if it begins early enough. -/
theorem find?_append_render {before : List String} (hbefore : ∀ line ∈ before, ¬isImportLine line)
    (h : InOrder Legible entries) (hne : entries ≠ []) (after : List String) :
    find? (before ++ (render entries ++ after)) = .ok (if before.length < lookahead then
      some ⟨before.length, before.length + (render entries).length, kept entries⟩ else none) := by
  split
  · next hlt =>
    obtain ⟨line, tail, hrender, hline, hclause⟩ := parseClause_render h hne before.length after
    rw [hrender] at hclause ⊢
    rw [List.cons_append, find?_append_cons hbefore hlt hline, hclause]
    rfl
  · next hlt =>
    refine find?_of_forall_not fun line hline => hbefore line ?_
    rw [List.take_append_of_le_length (Nat.le_of_not_lt hlt)] at hline
    exact List.mem_of_mem_take hline

end Imports

end RowTypes
