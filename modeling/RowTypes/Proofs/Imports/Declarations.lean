import RowTypes.Proofs.Imports.Widening

/-!
Import declarations, read by the grammar and not by the rules of a merge. What a text imports is found
by going through all of its declarations, character by character; a merge reads the first one only,
line by line. On declarations that are written in the usual forms both find the same.

What is proved:
  1. `imported_declaration`: what a declaration imports, by its form.
  2. `find?_declaration`: a merge reads the same from the first declaration, as entries.
  3. `declaration_render`: the clause that a merge writes is a declaration again.
-/

namespace RowTypes.Imports

open Text ImportEntries

/-! ## What lines import -/

/-- What a declaration imports once: the alias, which may be empty, and the path. -/
structure Spec where
  name : List Char
  path : List Char
  deriving DecidableEq, Repr

/-- The specs on a line, and whether a list is open behind it. `opened` says whether one is open so far,
`name` is what was read of an alias, and `path` is what was read of a path if a quote is open. A slash
outside of quotes begins a comment. -/
def scan : Bool → List Char → Option (List Char) → List Char → List Spec × Bool
  | opened, _, _, [] => ([], opened)
  | opened, name, some path, c :: rest =>
    if c = '"' then
      let (specs, opened) := scan opened [] none rest
      (⟨name, path⟩ :: specs, opened)
    else scan opened name (some (path ++ [c])) rest
  | opened, name, none, c :: rest =>
    if c = '"' then scan opened name (some []) rest
    else if c = '/' then ([], opened)
    else if c = '(' then scan true name none rest
    else if c = ')' then scan false name none rest
    else if isWhite c ∨ c = ';' then scan opened name none rest
    else scan opened (name ++ [c]) none rest

/-- What follows the keyword on the first line of a declaration. -/
def afterKeyword (line : String) : List Char :=
  (trimStart line.toList).drop keyword.length

/-- What some lines import, where `opened` says whether the first of them stands in a list. -/
def importedFrom : Bool → List String → List Spec
  | _, [] => []
  | true, line :: rest =>
    let found := scan true [] none line.toList
    found.1 ++ importedFrom found.2 rest
  | false, line :: rest =>
    if isImportLine line then
      let found := scan false [] none (afterKeyword line)
      found.1 ++ importedFrom found.2 rest
    else importedFrom false rest

/-- What the declarations of some lines import, in their order. -/
def imported (lines : List String) : List Spec :=
  importedFrom false lines

/-! ## Forms of declarations -/

/-- White space, and a comment behind it if there is one. -/
def Trails (s : List Char) : Prop :=
  ∃ blank comment, White blank ∧ s = blank ++ comment ∧ (comment = [] ∨ ['/', '/'] <+: comment)

/-- The alias is a word, the underscore or a dot, or is left out, and no quote is in the path. -/
structure Spec.Valid (spec : Spec) : Prop where
  name : ∀ c ∈ spec.name, ¬isWhite c ∧ c ∉ ['"', '/', '(', ')', ';']
  path : '"' ∉ spec.path

instance (spec : Spec) : Decidable spec.Valid :=
  haveI := List.decidableBAll (fun c => ¬isWhite c ∧ c ∉ ['"', '/', '(', ')', ';']) spec.name
  decidable_of_iff ((∀ c ∈ spec.name, ¬isWhite c ∧ c ∉ ['"', '/', '(', ')', ';']) ∧ '"' ∉ spec.path)
    ⟨fun h => ⟨h.1, h.2⟩, fun h => ⟨h.name, h.path⟩⟩

/-- The spec is written here, with blanks around its parts, and then `after` follows. -/
structure Spelled (spec : Spec) (s after : List Char) : Prop where
  valid : spec.Valid
  text : ∃ lead gap, White lead ∧ White gap ∧
    s = lead ++ (spec.name ++ (gap ++ '"' :: (spec.path ++ '"' :: after)))

/-- Pieces of a list, each with one spec or with none. `Ends` says what may follow a spec. -/
inductive Lists (Ends : List Char → Prop) : List (List Char) → List Spec → Prop where
  | nil : Lists Ends [] []
  | pass {s : List Char} {pieces : List (List Char)} {specs : List Spec} (blank : Ends s)
      (rest : Lists Ends pieces specs) : Lists Ends (s :: pieces) specs
  | spec {spec : Spec} {s after : List Char} {pieces : List (List Char)} {specs : List Spec}
      (spelled : Spelled spec s after) (ends : Ends after) (rest : Lists Ends pieces specs) :
      Lists Ends (s :: pieces) (spec :: specs)

/-- The line begins a declaration, and `body` follows the keyword. -/
structure Opens (line : String) (body : List Char) : Prop where
  text : ∃ lead, White lead ∧ line.toList = lead ++ (keyword ++ body)
  follows : mayFollowKeyword body

/-- A declaration: one spec, a list on one line whose specs are parted by semicolons, or a list with a
spec to a line, where comments may stand. -/
inductive Declaration : List String → List Spec → Prop where
  | single {line : String} {spec : Spec} {body after : List Char} (opens : Opens line body)
      (spelled : Spelled spec body after) (ends : Trails after) : Declaration [line] [spec]
  | inline {line : String} {specs : List Spec} {gap trail : List Char} {pieces : List (List Char)}
      (opens : Opens line (gap ++ '(' :: ([';'].intercalate pieces ++ ')' :: trail)))
      (gap_white : White gap) (trail_white : White trail) (unparted : ∀ piece ∈ pieces, ';' ∉ piece)
      (lists : Lists White pieces specs) (nonempty : specs ≠ []) : Declaration [line] specs
  | list {line paren : String} {specs : List Spec} {gap trail before after : List Char}
      {inside : List String} (opens : Opens line (gap ++ '(' :: trail)) (gap_white : White gap)
      (trail_white : White trail) (lists : Lists Trails (inside.map String.toList) specs)
      (closes : paren.toList = before ++ ')' :: after) (before_white : White before)
      (after_white : White after) : Declaration (line :: (inside ++ [paren])) specs

section
variable {spec : Spec} {specs : List Spec} {s after rest name path : List Char}
  {pieces : List (List Char)}

/-! ## Reading a spec -/

theorem scan_white (h : White s) (opened : Bool) (name rest : List Char) :
    scan opened name none (s ++ rest) = scan opened name none rest := by
  induction s with
  | nil => rfl
  | cons c s ih =>
    obtain ⟨hc, hs⟩ := List.forall_mem_cons.mp h
    have hne {d : Char} (hd : ¬isWhite d) : c ≠ d := by
      rintro rfl
      exact hd hc
    rw [List.cons_append, scan, if_neg (hne (by decide)), if_neg (hne (by decide)),
      if_neg (hne (by decide)), if_neg (hne (by decide)), if_pos (.inl hc), ih hs]

theorem scan_name (h : ∀ c ∈ name, ¬isWhite c ∧ c ∉ ['"', '/', '(', ')', ';']) (opened : Bool)
    (done rest : List Char) :
    scan opened done none (name ++ rest) = scan opened (done ++ name) none rest := by
  induction name generalizing done with
  | nil => simp
  | cons c name ih =>
    obtain ⟨⟨hwhite, hc⟩, hname⟩ := List.forall_mem_cons.mp h
    simp only [List.mem_cons, List.not_mem_nil, or_false, not_or] at hc
    obtain ⟨hquote, hslash, hopen, hclose, hpart⟩ := hc
    rw [List.cons_append, scan, if_neg hquote, if_neg hslash, if_neg hopen, if_neg hclose,
      if_neg (by simp [hwhite, hpart]), ih hname]
    simp

theorem scan_path (h : '"' ∉ path) (opened : Bool) (name done rest : List Char) :
    scan opened name (some done) (path ++ '"' :: rest) =
      (⟨name, done ++ path⟩ :: (scan opened [] none rest).1, (scan opened [] none rest).2) := by
  induction path generalizing done with
  | nil => simp [scan]
  | cons c path ih =>
    simp only [List.mem_cons, not_or] at h
    rw [List.cons_append, scan, if_neg (Ne.symm h.1), ih h.2]
    simp

theorem scan_spelled (h : Spelled spec s after) (opened : Bool) : scan opened [] none s =
    (spec :: (scan opened [] none after).1, (scan opened [] none after).2) := by
  obtain ⟨lead, gap, hlead, hgap, rfl⟩ := h.text
  rw [scan_white hlead, scan_name h.valid.name, scan_white hgap, scan, if_pos rfl,
    scan_path h.valid.path]
  rfl

theorem scan_trails (h : Trails s) (opened : Bool) : scan opened [] none s = ([], opened) := by
  obtain ⟨blank, comment, hblank, rfl, rfl | ⟨rest, rfl⟩⟩ := h
  · rw [scan_white hblank]
    rfl
  · rw [scan_white hblank]
    rfl

theorem trails_of_white (h : White s) : Trails s :=
  ⟨s, [], h, by simp, .inl rfl⟩

theorem Spelled.append (h : Spelled spec s after) (more : List Char) :
    Spelled spec (s ++ more) (after ++ more) := by
  obtain ⟨lead, gap, hlead, hgap, rfl⟩ := h.text
  exact ⟨h.valid, lead, gap, hlead, hgap, by simp⟩

theorem exists_behind_piece (s rest : List Char) (pieces : List (List Char)) (opened : Bool) :
    ∃ tail, [';'].intercalate (s :: pieces) ++ ')' :: rest = s ++ tail ∧
      scan opened [] none tail = scan opened [] none ([';'].intercalate pieces ++ ')' :: rest) := by
  cases pieces with
  | nil => exact ⟨')' :: rest, by simp, rfl⟩
  | cons next pieces =>
    refine ⟨';' :: ([';'].intercalate (next :: pieces) ++ ')' :: rest), ?_, rfl⟩
    simp [List.intercalate_cons_cons]

theorem scan_pieces (h : Lists White pieces specs) (opened : Bool) (rest : List Char) :
    scan opened [] none ([';'].intercalate pieces ++ ')' :: rest) =
      (specs ++ (scan false [] none rest).1, (scan false [] none rest).2) := by
  induction h with
  | nil => rfl
  | @pass s pieces specs blank _ ih =>
    obtain ⟨tail, htext, htail⟩ := exists_behind_piece s rest pieces opened
    rw [htext, scan_white blank, htail, ih]
  | @spec spec s after pieces specs spelled ends _ ih =>
    obtain ⟨tail, htext, htail⟩ := exists_behind_piece s rest pieces opened
    rw [htext, scan_spelled (spelled.append tail), scan_white ends, htail, ih]
    rfl

/-! ## Reading a declaration -/

section
variable {line : String} {body : List Char} {lines after : List String}

theorem trimStart_keyword (body : List Char) : trimStart (keyword ++ body) = keyword ++ body := by
  apply trimStart_of_head?
  intro c hc
  have hi : 'i' = c := by simpa [keyword_eq] using hc
  rw [← hi]
  decide

theorem Opens.afterKeyword_eq (h : Opens line body) : afterKeyword line = body := by
  obtain ⟨lead, hlead, htext⟩ := h.text
  rw [afterKeyword, htext, trimStart_append_white hlead, trimStart_keyword, List.drop_left]

theorem Opens.isImportLine (h : Opens line body) : isImportLine line := by
  obtain ⟨lead, hlead, htext⟩ := h.text
  have hprefix : keyword.isPrefixOf (keyword ++ body) :=
    List.isPrefixOf_iff_prefix.mpr (List.prefix_append _ _)
  rw [Imports.isImportLine, htext, trimStart_append_white hlead, trimStart_keyword, hprefix,
    List.drop_left, h.follows]
  rfl

theorem importedFrom_opens (h : Opens line body) (lines : List String) :
    importedFrom false (line :: lines) =
      (scan false [] none body).1 ++ importedFrom (scan false [] none body).2 lines := by
  rw [importedFrom, if_pos h.isImportLine, h.afterKeyword_eq]

theorem importedFrom_lists {inside : List String} (h : Lists Trails (inside.map String.toList) specs)
    (lines : List String) :
    importedFrom true (inside ++ lines) = specs ++ importedFrom true lines := by
  induction inside generalizing specs with
  | nil =>
    cases h
    rfl
  | cons line inside ih =>
    cases h with
    | pass blank rest =>
      rw [List.cons_append, importedFrom, scan_trails blank]
      exact ih rest
    | @spec spec _ _ _ specs spelled ends rest =>
      rw [List.cons_append, importedFrom, scan_spelled spelled, scan_trails ends]
      show spec :: importedFrom true (inside ++ lines) = spec :: (specs ++ importedFrom true lines)
      rw [ih rest]

/-- What a declaration imports. -/
theorem imported_declaration (h : Declaration lines specs) (after : List String) :
    imported (lines ++ after) = specs ++ imported after := by
  cases h with
  | single opens spelled ends =>
    show importedFrom false (_ :: after) = _
    rw [importedFrom_opens opens, scan_spelled spelled, scan_trails ends]
    rfl
  | inline opens gap_white trail_white unparted lists nonempty =>
    show importedFrom false (_ :: after) = _
    have hopen (rest : List Char) : scan false [] none ('(' :: rest) = scan true [] none rest := rfl
    rw [importedFrom_opens opens, scan_white gap_white, hopen, scan_pieces lists,
      scan_trails (trails_of_white trail_white)]
    simp [imported]
  | @list line paren specs gap trail before behind inside opens gap_white trail_white lists closes
      before_white after_white =>
    have hopen (rest : List Char) : scan false [] none ('(' :: rest) = scan true [] none rest := rfl
    have hclose (rest : List Char) : scan true [] none (')' :: rest) = scan false [] none rest := rfl
    rw [List.cons_append, imported, importedFrom_opens opens, scan_white gap_white, hopen,
      scan_trails (trails_of_white trail_white), List.append_assoc, importedFrom_lists lists,
      List.singleton_append, importedFrom, closes, scan_white before_white, hclose,
      scan_trails (trails_of_white after_white)]
    rfl

theorem imported_append_of_not (h : ∀ line ∈ lines, ¬isImportLine line) (after : List String) :
    imported (lines ++ after) = imported after := by
  induction lines with
  | nil => rfl
  | cons line lines ih =>
    obtain ⟨hline, hlines⟩ := List.forall_mem_cons.mp h
    rw [List.cons_append, imported, importedFrom, if_neg hline]
    exact ih hlines

end

/-! ## What a merge reads -/

/-- The entry that a merge makes of a spec. -/
def Spec.entry (spec : Spec) : ImportEntry :=
  entryOf spec.name spec.path

/-- What a merge reads from specs: a later one takes the place of an earlier one with its path. -/
def entriesFrom (entries : ImportEntries) (specs : List Spec) : ImportEntries :=
  specs.foldl (fun set spec => ImportEntries.insert spec.entry set) entries

theorem Spec.Valid.unspaced (h : spec.Valid) : Unspaced spec.name :=
  fun c hc => (h.name c hc).1

theorem parseSpec_of_trim {before : List Char} (hvalid : spec.Valid) (hbefore : '"' ∉ before)
    (hname : trim before = spec.name) (rest : List Char) :
    parseSpec (before ++ '"' :: (spec.path ++ '"' :: rest)) = some spec.entry := by
  have hunspaced : ¬spec.name.any isWhite := by
    intro hany
    obtain ⟨c, hc, hwhite⟩ := List.any_eq_true.mp hany
    exact hvalid.unspaced c hc hwhite
  rw [parseSpec_append hbefore hvalid.path, hname, if_neg hunspaced]
  rfl

theorem Spelled.exists_before (h : Spelled spec s after) : ∃ before, '"' ∉ before ∧
    (∀ c ∈ before, ¬isWhite c → c ∈ spec.name) ∧ trim before = spec.name ∧
      s = before ++ '"' :: (spec.path ++ '"' :: after) := by
  obtain ⟨lead, gap, hlead, hgap, rfl⟩ := h.text
  have hink : ∀ c ∈ lead ++ (spec.name ++ gap), ¬isWhite c → c ∈ spec.name := by
    intro c hc hwhite
    simp only [List.mem_append] at hc
    rcases hc with hmem | hmem | hmem
    · exact absurd (hlead c hmem) hwhite
    · exact hmem
    · exact absurd (hgap c hmem) hwhite
  refine ⟨lead ++ (spec.name ++ gap), fun hmem => ?_, hink, trim_around hlead hgap h.valid.unspaced,
    by simp⟩
  exact (h.valid.name '"' (hink '"' hmem (by decide))).2 (by simp)

theorem parseSpec_spelled (h : Spelled spec s after) : parseSpec s = some spec.entry := by
  obtain ⟨before, hbefore, -, hname, rfl⟩ := h.exists_before
  exact parseSpec_of_trim h.valid hbefore hname after

theorem Spelled.exists_trim (h : Spelled spec s after) : ∃ c rest, trim s = c :: rest ∧
    c ∉ ['/', '(', ')'] ∧ parseSpec (trim s) = some spec.entry := by
  obtain ⟨before, hbefore, hink, hname, rfl⟩ := h.exists_before
  have hquote : ¬isWhite '"' := by decide
  have hstart : '"' ∉ trimStart before := fun hmem => hbefore (mem_of_mem_trimStart hmem)
  have hparse := parseSpec_of_trim h.valid hstart ((trim_trimStart before).trans hname)
  rw [trim_append_cons hquote, trimEnd_append_cons hquote]
  cases htrim : trimStart before with
  | nil => exact ⟨'"', _, rfl, by decide, htrim ▸ hparse _⟩
  | cons c rest =>
    have hc : ¬isWhite c := by
      have hhead := List.head?_dropWhile_not isWhite before
      rw [← trimStart, htrim] at hhead
      simpa using hhead
    have hmem : c ∈ before := mem_of_mem_trimStart (htrim ▸ List.mem_cons_self)
    have hname := (h.valid.name c (hink c hmem hc)).2
    refine ⟨c, _, rfl, fun hbracket => hname ?_, htrim ▸ hparse _⟩
    simp only [List.mem_cons, List.not_mem_nil, or_false] at hbracket ⊢
    tauto

theorem parseSpecs_pieces (h : Lists White pieces specs) (entries : ImportEntries) :
    parseSpecs entries (pieces.filter fun piece => !(trim piece).isEmpty) =
      some (entriesFrom entries specs) := by
  induction h generalizing entries with
  | nil => rfl
  | pass blank _ ih =>
    rw [List.filter_cons_of_neg (by simp [trim_of_white blank])]
    exact ih entries
  | spec spelled ends _ ih =>
    obtain ⟨c, rest, htrim, -⟩ := spelled.exists_trim
    rw [List.filter_cons_of_pos (by simp [htrim]), parseSpecs, parseSpec_spelled spelled]
    exact ih _

theorem isCommentOrBlank_trim (h : Trails s) : isCommentOrBlank (trim s) ∧ trim s ≠ [')'] := by
  obtain ⟨blank, comment, hblank, rfl, rfl | ⟨rest, rfl⟩⟩ := h
  · rw [List.append_nil, trim_of_white hblank]
    exact ⟨rfl, by simp⟩
  · have hslash : ¬isWhite '/' := by decide
    have hcomment : trim (blank ++ '/' :: '/' :: rest) = '/' :: '/' :: trimEnd rest := by
      rw [trim_append_cons hslash, trimStart_of_white hblank]
      exact congrArg (List.cons '/') (trimEnd_append_cons hslash [] rest)
    show isCommentOrBlank (trim (blank ++ '/' :: '/' :: rest)) ∧ trim (blank ++ '/' :: '/' :: rest) ≠ _
    rw [hcomment]
    exact ⟨rfl, by simp⟩

theorem parseBracketed_lines {inside : List String} (h : Lists Trails (inside.map String.toList) specs)
    {paren : String} (hparen : trim paren.toList = [')']) (start index : Nat) (entries : ImportEntries)
    (rest : List String) : parseBracketed start index entries (inside ++ paren :: rest) =
      .ok ⟨start, index + inside.length + 1, entriesFrom entries specs⟩ := by
  -- By induction on the lines: a line is passed, or it is read as the next entry.
  induction inside generalizing specs index entries with
  | nil =>
    cases h
    rw [List.nil_append, parseBracketed]
    simp only [hparen, if_true]
    rfl
  | cons line inside ih =>
    rw [List.cons_append, parseBracketed]
    cases h with
    | pass blank lists =>
      obtain ⟨hcomment, hparen⟩ := isCommentOrBlank_trim blank
      simp only [if_neg hparen, if_pos hcomment, ih lists]
      simp
      omega
    | spec spelled ends lists =>
      obtain ⟨c, tail, htrim, hc, hparse⟩ := spelled.exists_trim
      have hparen : trim line.toList ≠ [')'] := by
        rw [htrim]
        rintro ⟨⟩
        simp at hc
      have hcomment : ¬isCommentOrBlank (trim line.toList) := by
        rw [htrim]
        simp only [List.mem_cons, not_or] at hc
        simp [isCommentOrBlank, List.isPrefixOf, Ne.symm hc.1]
      simp only [if_neg hparen, if_neg hcomment, hparse, ih lists]
      simp [entriesFrom]
      omega

section
variable {line : String} {body : List Char} {lines : List String}

theorem Opens.trim_eq (h : Opens line body) :
    trim ((trim line.toList).drop keyword.length) = trim body := by
  obtain ⟨lead, hlead, htext⟩ := h.text
  have hink : ¬isWhite 't' := by decide
  have hword : trimStart (lead ++ "impor".toList) = "impor".toList := by
    rw [trimStart_append_white hlead]
    rfl
  have hline : trim line.toList = keyword ++ trimEnd body := by
    have hsplit : line.toList = (lead ++ "impor".toList) ++ 't' :: body := by
      rw [htext]
      simp [keyword_eq]
    rw [hsplit, trim_append_cons hink, hword]
    rfl
  rw [hline, List.drop_left, trim_trimEnd]

theorem trim_bracket {c : Char} {gap trail : List Char} (hc : ¬isWhite c) (hgap : White gap)
    (htrail : White trail) : trim (gap ++ c :: trail) = [c] := by
  have htext : gap ++ c :: trail = gap ++ ([c] ++ trail) := rfl
  rw [htext]
  exact trim_around hgap htrail (by simp [hc])

theorem specsOf_cons {c : Char} (hc : c ≠ '(') (rest : List Char) : specsOf (c :: rest) = [c :: rest] := by
  unfold specsOf parenthesized?
  split
  · next inner hinner =>
    split at hinner
    · next heq => exact absurd (List.cons.inj heq).1 hc
    · simp at hinner
  · rfl

theorem specsOf_parens (inner : List Char) : specsOf ('(' :: (inner ++ [')'])) =
    (inner.splitOn ';').filter fun spec => !(trim spec).isEmpty := by
  simp [specsOf, parenthesized?]

theorem Lists.ne_nil {Ends : List Char → Prop} (h : Lists Ends pieces specs) (hne : specs ≠ []) :
    pieces ≠ [] := by
  rintro rfl
  cases h
  exact hne rfl

theorem entriesFrom_ne_nil (hne : specs ≠ []) (entries : ImportEntries) :
    entriesFrom entries specs ≠ [] := by
  obtain ⟨init, last, rfl⟩ : ∃ init last, specs = init ++ [last] :=
    ⟨specs.dropLast, specs.getLast hne, (List.dropLast_concat_getLast hne).symm⟩
  rw [entriesFrom, List.foldl_append]
  exact List.ne_nil_of_mem mem_insert_self

/-- A merge reads the specs of a declaration. -/
theorem parseClause_declaration (h : Declaration (line :: lines) specs) (start : Nat)
    (after : List String) : parseClause start line (lines ++ after) =
      .ok ⟨start, start + (line :: lines).length, entriesFrom [] specs⟩ := by
  unfold parseClause
  cases h with
  | @single _ spec body after opens spelled ends =>
    obtain ⟨c, rest, htrim, hc, hparse⟩ := spelled.exists_trim
    have hparen : c ≠ '(' := by
      rintro rfl
      simp at hc
    have hopen : ¬c :: rest = ['('] := fun heq => hparen (List.cons.inj heq).1
    rw [htrim] at hparse
    simp only [opens.trim_eq, htrim, if_neg hopen, specsOf_cons hparen, parseSpecs, hparse]
    rfl
  | @inline _ _ gap trail pieces opens gap_white trail_white unparted lists nonempty =>
    have hinner : trim (gap ++ '(' :: ([';'].intercalate pieces ++ ')' :: trail)) =
        '(' :: ([';'].intercalate pieces ++ [')']) := by
      have htext : gap ++ '(' :: ([';'].intercalate pieces ++ ')' :: trail) =
          (gap ++ ('(' :: [';'].intercalate pieces)) ++ ')' :: trail := by simp
      rw [htext, trim_append_cons (by decide), trimStart_append_white gap_white,
        trimEnd_of_white trail_white]
      rfl
    have hopen : '(' :: ([';'].intercalate pieces ++ [')']) ≠ ['('] := by simp
    have hsplit : ([';'].intercalate pieces).splitOn ';' = pieces :=
      List.splitOn_intercalate ';' unparted (lists.ne_nil nonempty)
    obtain ⟨first, rest, hentries⟩ := List.exists_cons_of_ne_nil (entriesFrom_ne_nil nonempty [])
    simp only [opens.trim_eq, hinner, if_neg hopen, specsOf_parens, hsplit, parseSpecs_pieces lists,
      hentries]
    rfl
  | @list _ paren _ gap trail before behind inside opens gap_white trail_white lists closes
      before_white after_white =>
    have hparen : trim paren.toList = [')'] := by
      rw [closes]
      exact trim_bracket (by decide) before_white after_white
    have hlines : inside ++ [paren] ++ after = inside ++ paren :: after := by simp
    simp only [opens.trim_eq, trim_bracket (show ¬isWhite '(' by decide) gap_white trail_white, if_true,
      hlines, parseBracketed_lines lists hparen]
    simp
    omega

/-- A merge finds the first declaration if it comes early enough. -/
theorem find?_declaration {before declaration : List String}
    (hbefore : ∀ line ∈ before, ¬isImportLine line) (hearly : before.length < lookahead)
    (h : Declaration declaration specs) (after : List String) :
    find? (before ++ (declaration ++ after)) =
      .ok (some ⟨before.length, before.length + declaration.length, entriesFrom [] specs⟩) := by
  obtain ⟨line, lines, body, rfl, hopens⟩ : ∃ line lines body,
      declaration = line :: lines ∧ Opens line body := by
    cases h with
    | single opens => exact ⟨_, [], _, rfl, opens⟩
    | inline opens => exact ⟨_, [], _, rfl, opens⟩
    | list opens => exact ⟨_, _, _, rfl, opens⟩
  rw [List.cons_append, find?_append_cons hbefore hearly hopens.isImportLine,
    parseClause_declaration h _ after]
  rfl

end

/-! ## Clauses that are written -/

theorem spelled_written {lead : List Char} (hvalid : spec.Valid) (hlead : White lead) :
    Spelled spec (lead ++ spec.entry.written.toList) [] := by
  refine ⟨hvalid, lead, if spec.name = [] then [] else [' '], hlead, ?_, ?_⟩
  · split <;> decide
  · rw [Spec.entry, written_entryOf, aliasPart]
    split
    · next hempty => simp [hempty]
    · simp

theorem trails_nil : Trails [] :=
  trails_of_white (by decide)

theorem lists_written (h : ∀ spec ∈ specs, spec.Valid) :
    Lists Trails ((specs.map fun spec => "\t" ++ spec.entry.written).map String.toList) specs := by
  induction specs with
  | nil => exact .nil
  | cons spec specs ih =>
    obtain ⟨hvalid, hrest⟩ := List.forall_mem_cons.mp h
    refine .spec ?_ trails_nil (ih hrest)
    rw [String.toList_append]
    exact spelled_written hvalid (show White "\t".toList by decide)

/-- The clause that is written for valid specs is a declaration of them. -/
theorem declaration_render (h : ∀ spec ∈ specs, spec.Valid) (hne : specs ≠ []) :
    Declaration (render (specs.map Spec.entry)) specs := by
  match specs with
  | [] => exact absurd rfl hne
  | [spec] =>
    have hspelled := spelled_written (h spec List.mem_cons_self) (show White [' '] by decide)
    refine .single ⟨⟨[], by decide, ?_⟩, ?_⟩ hspelled trails_nil
    · simp [keyword_eq]
    · rfl
  | first :: second :: rest =>
    have hlists := lists_written h
    have hrender : render ((first :: second :: rest).map Spec.entry) = "import (" ::
        ((first :: second :: rest).map (fun spec => "\t" ++ spec.entry.written) ++ [")"]) := by
      simp [render]
    rw [hrender]
    have hopens : Opens "import (" ([' '] ++ '(' :: []) := ⟨⟨[], by decide, rfl⟩, rfl⟩
    have hcloses : ")".toList = [] ++ ')' :: [] := rfl
    exact .list hopens (by decide) (by decide) hlists hcloses (by decide) (by decide)

end

end RowTypes.Imports
