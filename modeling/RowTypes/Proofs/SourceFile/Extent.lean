import RowTypes.SourceFile
import RowTypes.Proofs.Region.Extent
import RowTypes.Proofs.Region.Lines

/-!
What a splice replaces, said of the lines of the text. The search for a region reads characters; here
its outcome, and with it all that a splice does, is told from lines that are spelled in some way.

What is proved:
  1. `find?_eq_some_iff`, `find?_eq_none_iff`: the region of a text is the first region of its lines.
  2. `declares_iff`: a text declares a type iff one of its lines does.
  3. `splice_by_lines`: a splice replaces the first region; if there is none, it fails iff the type is
     declared, and puts the block at the end otherwise.
-/

namespace RowTypes

open Text

namespace Region

variable {name text : List Char}

theorem find?_eq_map (hfeed : '\n' ∉ name) :
    find? name text = (findLines name (text.splitOn '\n')).map LineParts.toParts := by
  conv => lhs; rw [← joined_splitOn text]
  exact find?_joined hfeed (clean_splitOn text)

/-- The region of a text is the first region of its lines. -/
theorem find?_eq_some_iff (hname : Unblank name) (hfeed : '\n' ∉ name) {parts : Parts} :
    find? name text = some parts ↔
      ∃ found, FirstRegion name (text.splitOn '\n') found ∧ found.toParts = parts := by
  simp only [find?_eq_map hfeed, Option.map_eq_some_iff, findLines_eq_some_iff hname]

theorem find?_eq_none_iff (hname : Unblank name) (hfeed : '\n' ∉ name) :
    find? name text = none ↔ ∀ struct, BlockStruct name struct → ¬struct <:+: text.splitOn '\n' := by
  rw [find?_eq_map hfeed, Option.map_eq_none_iff, findLines_eq_none_iff hname]

theorem declares_iff (hname : Unblank name) (hfeed : '\n' ∉ name) :
    declares name text ↔ ∃ line ∈ text.splitOn '\n', DeclaresType name line := by
  conv => lhs; rw [← joined_splitOn text]
  rw [declares_joined hfeed (clean_splitOn text), List.any_eq_true]
  simp only [isDeclaration_iff hname]

end Region

namespace SourceFile

open Region

theorem splice_of_missing {text typeName : String} (block : String)
    (hnone : Region.find? typeName.toList text.toList = none) : splice text typeName block =
      if declares typeName.toList text.toList then .error (.unmatchedDeclaration typeName)
      else .ok (append text block, .appended) := by
  unfold splice
  rw [hnone]

/-- What a splice does is settled by how the lines of the text are spelled. The region that it replaces
is the first one; without a region it fails iff a line declares the type, and else the text is kept
as a prefix. -/
theorem splice_by_lines (text typeName block : String) (hname : Unblank typeName.toList)
    (hfeed : '\n' ∉ typeName.toList) :
    (∀ parts, Region.find? typeName.toList text.toList = some parts ↔
      ∃ found, FirstRegion typeName.toList (text.toList.splitOn '\n') found ∧
        found.toParts = parts) ∧
    (∀ found, FirstRegion typeName.toList (text.toList.splitOn '\n') found →
      splice text typeName block = .ok (String.ofList found.toParts.before ++ block ++
        String.ofList found.toParts.after, .replaced)) ∧
    ((∀ struct, BlockStruct typeName.toList struct → ¬struct <:+: text.toList.splitOn '\n') →
      (splice text typeName block = .error (.unmatchedDeclaration typeName) ↔
        ∃ line ∈ text.toList.splitOn '\n', DeclaresType typeName.toList line) ∧
      ((¬∃ line ∈ text.toList.splitOn '\n', DeclaresType typeName.toList line) →
        splice text typeName block =
          .ok (text ++ (if text.toList.getLast? = some '\n' then "" else "\n") ++ "\n" ++ block,
            .appended))) := by
  refine ⟨fun parts => find?_eq_some_iff hname hfeed, ?found, ?missing⟩
  case found =>
    intro found hfirst
    have hfind : Region.find? typeName.toList text.toList = some found.toParts :=
      (find?_eq_some_iff hname hfeed).mpr ⟨found, hfirst, rfl⟩
    unfold splice
    rw [hfind]
  case missing =>
    intro hstruct
    have hnone := (find?_eq_none_iff hname hfeed).mpr hstruct
    rw [← declares_iff hname hfeed, splice_of_missing block hnone]
    by_cases hdeclares : declares typeName.toList text.toList
    · rw [if_pos hdeclares]
      exact ⟨⟨fun _ => hdeclares, fun _ => rfl⟩, fun hnot => absurd hdeclares hnot⟩
    · rw [if_neg hdeclares]
      refine ⟨⟨fun herror => ?_, fun h => absurd h hdeclares⟩, fun _ => rfl⟩
      cases herror

/-- A declaration without the reserved field, and one with it that a list of constants follows. The
lines end with carriage returns, and no line feed ends the last one. -/
def bareDeclaration : String :=
  "type T struct \x7b\r\n\x7d\r\n"

def blockDeclaration : String :=
  "type T struct\x7b\r\n\tDbMetadata_ any\r\n\x7d\r\n\r\nconst (\r\n)\r"

theorem splice_by_lines_second_header :
    Unblank "T".toList ∧ '\n' ∉ "T".toList ∧ ∃ found,
      FirstRegion "T".toList ((bareDeclaration ++ blockDeclaration).toList.splitOn '\n') found ∧
      found.toParts = ⟨bareDeclaration.toList, blockDeclaration.toList, []⟩ :=
  ⟨by decide, by decide,
    ((splice_by_lines _ "T" "" (by decide) (by decide)).1 _).mp (by decide)⟩

end SourceFile

end RowTypes
