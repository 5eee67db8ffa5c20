import RowTypes.Block
import RowTypes.Region

/-!
Source files that hold blocks. Merging a block into a file widens the import clause, then puts the
block in place of the region of its type or at the end. All other text stays as it is.
-/

namespace RowTypes

/-- Where a block came to stand. -/
inductive Placement where
  | replaced
  | appended
  deriving DecidableEq, Repr

/-- What a merge did to a file. -/
inductive MergeOutcome where
  | created
  | patched
  | appended
  deriving DecidableEq, Repr

/-- The outcome of a merge into a file with content. -/
def Placement.outcome : Placement → MergeOutcome
  | replaced => .patched
  | appended => .appended

/-- A file after a merge. -/
structure Merged where
  text : String
  outcome : MergeOutcome
  deriving DecidableEq, Repr

namespace SourceFile

def lines (text : String) : List String :=
  (text.toList.splitOn '\n').map String.ofList

def ofLines (lines : List String) : String :=
  "\n".intercalate lines

/-- A text with a block at its end, after a blank line. -/
def append (text block : String) : String :=
  text ++ (if text.toList.getLast? = some '\n' then "" else "\n") ++ "\n" ++ block

/-- Put a block in place of the region of its type, or at the end if the type is not declared. A
declaration that is no block is an error, since the type would then be declared twice. -/
def splice (text typeName block : String) : Except MergeError (String × Placement) :=
  match Region.find? typeName.toList text.toList with
  | some parts =>
    .ok (String.ofList parts.before ++ block ++ String.ofList parts.after, .replaced)
  | none =>
    if Region.declares typeName.toList text.toList then .error (.unmatchedDeclaration typeName)
    else .ok (append text block, .appended)

/-- A new file with a package line, the imports, and a block. -/
def compose (packageName block : String) (dependencies : Packages) : String :=
  let imports := Imports.render (Imports.addPackages [] dependencies)
  "package " ++ packageName ++ "\n\n" ++
    (if imports.isEmpty then "" else ofLines imports ++ "\n\n") ++ block

/-- A new file with one block. -/
def ofBlock (packageName : String) (block : Block) : String :=
  compose packageName block.text block.dependencies

/-- Merge the text of a block into a file that has content. -/
def patch (text typeName block : String) (dependencies : Packages) : Except MergeError Merged :=
  match Imports.merge (lines text) dependencies with
  | .error e => .error e
  | .ok widened =>
    match splice (ofLines widened) typeName block with
    | .error e => .error e
    | .ok (text, placement) => .ok ⟨text, placement.outcome⟩

/-- Merge a block into a file; a file without content is written anew. -/
def merge (text packageName : String) (block : Block) : Except MergeError Merged :=
  if Text.isAllWhite text then .ok ⟨ofBlock packageName block, .created⟩
  else patch text block.typeName block.text block.dependencies

end SourceFile

end RowTypes
