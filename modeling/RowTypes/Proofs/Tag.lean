import RowTypes.Proofs.Text.Lines
import RowTypes.Tag

/-!
Tags that are written and read again. Commas part the entries of a tag, so what is read of it never
holds one, and a tag without commas is found again entry by entry. Reading therefore undoes writing
for the tags without commas and for no others.

What is proved:
  1. `tokenOf_pair`, `tokens_intercalate`: what is read of one entry, and of entries between commas.
  2. `ColumnTag.parse_format`, `TableTag.parse_format`: a tag without commas is read back.
  3. `ColumnTag.commaless_parse`, `TableTag.commaless_parse`: what is read holds no comma.
  4. `tags_lossless_iff`: which tags are read back, and that every tag that was read is one of them.
-/

namespace RowTypes

namespace Tag

/-- No comma stands in the text. -/
def Commaless (text : String) : Prop :=
  ',' ∉ text.toList

instance (text : String) : Decidable (Commaless text) :=
  inferInstanceAs (Decidable (_ ∉ _))

/-! ## What is written -/

/-- A text that is found again between commas. -/
structure IsEntry (text : String) : Prop where
  commaless : Commaless text
  nonempty : text ≠ ""

instance (text : String) : Decidable (IsEntry text) :=
  decidable_of_iff (Commaless text ∧ text ≠ "") ⟨fun h => ⟨h.1, h.2⟩, fun h => ⟨h.1, h.2⟩⟩

variable {key value : String} {entries : List String}

theorem isEntry_pair (hkey : Commaless key) (hvalue : Commaless value) :
    IsEntry (key ++ ":" ++ value) where
  commaless := by simpa [Commaless] using And.intro hkey hvalue
  nonempty := by
    intro hempty
    have hchars := congrArg String.toList hempty
    simp at hchars

theorem isEntry_of_mem_optionalPair {entry : String} (hkey : Commaless key)
    (hvalue : Commaless value) (h : entry ∈ optionalPair key value) : IsEntry entry := by
  unfold optionalPair at h
  split at h
  · cases h
  · rw [List.mem_singleton.mp h]
    exact isEntry_pair hkey hvalue

/-- The entry that a text spells. -/
def tokenOf (entry : String) : Token :=
  Token.ofChars entry.toList

/-- The first colon ends the key, and what follows it is the value. -/
theorem tokenOf_pair (hkey : ':' ∉ key.toList) (value : String) :
    tokenOf (key ++ ":" ++ value) = if value = "" then .bare key else .pair key value := by
  have hspan : (key ++ ":" ++ value).toList.span (· != ':') = (key.toList, ':' :: value.toList) := by
    simpa using Text.span_append hkey value.toList
  rw [tokenOf, Token.ofChars, hspan]
  cases hvalue : value.toList with
  | nil =>
    obtain rfl : value = "" := String.toList_inj.mp hvalue
    simp
  | cons c rest =>
    have hne : value ≠ "" := by
      rintro rfl
      cases hvalue
    simp [hne, ← hvalue]

/-- Entries between commas are read one by one. -/
theorem tokens_intercalate (h : ∀ entry ∈ entries, IsEntry entry) :
    tokens (",".intercalate entries) = entries.map tokenOf := by
  have hcommas : ∀ entry ∈ entries, ',' ∉ entry.toList := fun entry hentry => (h entry hentry).1
  have hne : ∀ entry ∈ entries, entry ≠ "" := fun entry hentry => (h entry hentry).2
  have hcomma : ",".toList = [','] := by simp
  rw [tokens, String.toList_intercalate, hcomma]
  cases entries with
  | nil => rfl
  | cons entry entries =>
    rw [List.splitOn_intercalate ',' (by simpa using hcommas) (by simp),
      List.filter_eq_self.mpr (by simpa using hne), List.map_map]
    rfl

theorem foldl_optionalPair {α : Type} {absorb : α → Token → α} {tag result : α}
    (hkey : ':' ∉ key.toList) (hpair : absorb tag (.pair key value) = result)
    (hempty : value = "" → tag = result) :
    ((optionalPair key value).map tokenOf).foldl absorb tag = result := by
  unfold optionalPair
  by_cases hvalue : value = ""
  · simpa [hvalue] using hempty hvalue
  · simp [hvalue, tokenOf_pair hkey, hpair]

/-! ## What is read -/

/-- The value of the entry holds no comma. -/
def Token.Commaless : Token → Prop
  | .pair _ value => Tag.Commaless value
  | .flag _ | .bare _ => True

theorem commaless_of_mem_tokens {text : String} {token : Token} (h : token ∈ tokens text) :
    token.Commaless := by
  obtain ⟨piece, hpiece, rfl⟩ := List.mem_map.mp h
  have hcomma : ',' ∉ piece := Text.not_mem_of_mem_splitOn (List.mem_filter.mp hpiece).1
  unfold Token.ofChars
  split
  · trivial
  · trivial
  · next key mark value _ hspan =>
    obtain ⟨rfl, -⟩ := Text.exists_of_span hspan
    change ',' ∉ (String.ofList value).toList
    rw [String.toList_ofList]
    exact fun hmem => hcomma (by simp [hmem])

theorem foldl_tokens {α : Type} {absorb : α → Token → α} {P : α → Prop}
    (habsorb : ∀ tag token, P tag → token.Commaless → P (absorb tag token)) (text : String) {tag : α}
    (h : P tag) : P ((tokens text).foldl absorb tag) :=
  List.foldlRecOn (tokens text) absorb h fun tag htag token htoken =>
    habsorb tag token htag (commaless_of_mem_tokens htoken)

end Tag

open Tag

/-! ## Tags of columns -/

namespace ColumnTag

/-- No text of the tag holds a comma. -/
structure Commaless (tag : ColumnTag) : Prop where
  name : Tag.Commaless tag.name
  foreignKey : Tag.Commaless tag.foreignKey
  pointedKey : Tag.Commaless tag.pointedKey

theorem isEntry_of_mem_entries {tag : ColumnTag} (h : tag.Commaless) {entry : String}
    (hentry : entry ∈ tag.entries) : IsEntry entry := by
  simp only [entries, List.mem_append] at hentry
  obtain (((hname | hauto) | hprimary) | hforeign) | hpointed := hentry
  · exact isEntry_of_mem_optionalPair (by decide) h.name hname
  · split at hauto
    · rw [List.mem_singleton.mp hauto]
      decide
    · cases hauto
  · split at hprimary
    · rw [List.mem_singleton.mp hprimary]
      decide
    · cases hprimary
  · exact isEntry_of_mem_optionalPair (by decide) h.foreignKey hforeign
  · exact isEntry_of_mem_optionalPair (by decide) h.pointedKey hpointed

/-- A tag without commas is read back entry by entry. -/
theorem parse_format {tag : ColumnTag} (h : tag.Commaless) : parse tag.format = tag := by
  rw [parse, format, tokens_intercalate fun entry => isEntry_of_mem_entries h]
  obtain ⟨name, primary, foreign, pointed, auto⟩ := tag
  -- In the order of writing, each entry restores one more field of the tag.
  have hname : ((optionalPair "Column" name).map tokenOf).foldl absorb {} = { name } :=
    foldl_optionalPair (by decide) rfl fun hempty => by rw [hempty]
  have hauto : ((if auto then ["AutoIncrement"] else []).map tokenOf).foldl absorb { name } =
      { name, autoIncrement := auto } := by
    cases auto <;> rfl
  have hprimary : ((if primary then ["PrimaryKey"] else []).map tokenOf).foldl absorb
      { name, autoIncrement := auto } =
        { name, isPrimaryKey := primary, autoIncrement := auto } := by
    cases primary <;> rfl
  have hforeign : ((optionalPair "ForeignKey" foreign).map tokenOf).foldl absorb
      { name, isPrimaryKey := primary, autoIncrement := auto } =
        { name, isPrimaryKey := primary, foreignKey := foreign, autoIncrement := auto } :=
    foldl_optionalPair (by decide) rfl fun hempty => by rw [hempty]
  have hpointed : ((optionalPair "PointedForeignKey" pointed).map tokenOf).foldl absorb
      { name, isPrimaryKey := primary, foreignKey := foreign, autoIncrement := auto } =
        ⟨name, primary, foreign, pointed, auto⟩ :=
    foldl_optionalPair (by decide) rfl fun hempty => by rw [hempty]
  simp only [entries, List.map_append, List.foldl_append, hname, hauto, hprimary, hforeign, hpointed]

theorem commaless_absorb {tag : ColumnTag} {token : Token} (h : tag.Commaless)
    (htoken : token.Commaless) : (absorb tag token).Commaless := by
  unfold absorb
  split
  · exact ⟨h.name, h.foreignKey, h.pointedKey⟩
  · exact ⟨h.name, h.foreignKey, h.pointedKey⟩
  · exact ⟨htoken, h.foreignKey, h.pointedKey⟩
  · exact ⟨h.name, htoken, h.pointedKey⟩
  · exact ⟨h.name, h.foreignKey, htoken⟩
  · exact h

theorem commaless_parse (text : String) : (parse text).Commaless :=
  foldl_tokens (fun _ _ => commaless_absorb) text ⟨by decide, by decide, by decide⟩

theorem parse_format_iff {tag : ColumnTag} : parse tag.format = tag ↔ tag.Commaless :=
  ⟨fun h => h ▸ commaless_parse _, parse_format⟩

end ColumnTag

/-! ## Tags of tables -/

namespace TableTag

/-- No text of the tag holds a comma. -/
structure Commaless (tag : TableTag) : Prop where
  schema : Tag.Commaless tag.schema
  table : Tag.Commaless tag.table

theorem format_eq (tag : TableTag) :
    tag.format = ",".intercalate ["Schema" ++ ":" ++ tag.schema, "Table" ++ ":" ++ tag.table] := by
  rw [← String.toList_inj]
  simp [format]

/-- A tag without commas is read back, an empty text from an entry without a value. -/
theorem parse_format {tag : TableTag} (h : tag.Commaless) : parse tag.format = tag := by
  have hentries : ∀ entry ∈ ["Schema" ++ ":" ++ tag.schema, "Table" ++ ":" ++ tag.table],
      IsEntry entry := by
    rw [List.forall_mem_cons, List.forall_mem_singleton]
    exact ⟨isEntry_pair (by decide) h.schema, isEntry_pair (by decide) h.table⟩
  rw [parse, format_eq, tokens_intercalate hentries, List.map_cons, List.map_singleton,
    tokenOf_pair (by decide), tokenOf_pair (by decide)]
  obtain ⟨schema, table⟩ := tag
  have hschema : absorb {} (if schema = "" then .bare "Schema" else .pair "Schema" schema) =
      { schema } := by
    split
    · next hempty => rw [hempty]; rfl
    · rfl
  have htable : absorb { schema } (if table = "" then .bare "Table" else .pair "Table" table) =
      ⟨schema, table⟩ := by
    split
    · next hempty => rw [hempty]; rfl
    · rfl
  rw [List.foldl_cons, hschema, List.foldl_cons, htable, List.foldl_nil]

theorem commaless_absorb {tag : TableTag} {token : Token} (h : tag.Commaless)
    (htoken : token.Commaless) : (absorb tag token).Commaless := by
  unfold absorb
  split
  · exact ⟨htoken, h.table⟩
  · exact ⟨h.schema, htoken⟩
  · exact h

theorem commaless_parse (text : String) : (parse text).Commaless :=
  foldl_tokens (fun _ _ => commaless_absorb) text ⟨by decide, by decide⟩

theorem parse_format_iff {tag : TableTag} : parse tag.format = tag ↔ tag.Commaless :=
  ⟨fun h => h ▸ commaless_parse _, parse_format⟩

end TableTag

/-- A tag is read back from what is written of it exactly if none of its texts holds a comma. What is
read of a text is always such a tag, so writing and reading it once more changes nothing. -/
theorem tags_lossless_iff :
    (∀ tag : ColumnTag, ColumnTag.parse tag.format = tag ↔
      ',' ∉ tag.name.toList ∧ ',' ∉ tag.foreignKey.toList ∧ ',' ∉ tag.pointedKey.toList) ∧
    (∀ tag : TableTag, TableTag.parse tag.format = tag ↔
      ',' ∉ tag.schema.toList ∧ ',' ∉ tag.table.toList) ∧
    (∀ text, ColumnTag.parse (ColumnTag.parse text).format = ColumnTag.parse text) ∧
    ∀ text, TableTag.parse (TableTag.parse text).format = TableTag.parse text := by
  refine ⟨fun tag => ?_, fun tag => ?_, fun text => ?_, fun text => ?_⟩
  · rw [ColumnTag.parse_format_iff]
    exact ⟨fun h => ⟨h.name, h.foreignKey, h.pointedKey⟩, fun h => ⟨h.1, h.2.1, h.2.2⟩⟩
  · rw [TableTag.parse_format_iff]
    exact ⟨fun h => ⟨h.schema, h.table⟩, fun h => ⟨h.1, h.2⟩⟩
  · exact ColumnTag.parse_format (ColumnTag.commaless_parse text)
  · exact TableTag.parse_format (TableTag.commaless_parse text)

/-- The last entry for a text counts, and its value may hold colons. -/
example : ColumnTag.parse "Column:a,Odd,ForeignKey:,PrimaryKey,Column:b:c" =
    { name := "b:c", isPrimaryKey := true } := by decide

end RowTypes
