import RowTypes.Storage.Tree

/-!
Writing a file so that no reader sees a part of it: the content goes to a sibling first, which is
then renamed. Directories on the way are made as needed. That files are also brought to the disk, and that
this can fail, is left out.
-/

namespace RowTypes.Storage

/-- The content of a file, which is empty if there is no file. -/
def readExisting (tree : Tree) (path : String) : Except IoError String :=
  match tree.readText path with
  | .error .notFound => .ok ""
  | result => result

/-- Make a directory and those above it that are missing, at most `fuel` of them. Directories stay
even if a later one cannot be made. -/
def makeDirectories (tree : Tree) : Nat → Path → Tree × Except IoError Unit
  | 0, _ => (tree, .ok ())
  | fuel + 1, path =>
    let text := path.toString
    if text.isEmpty then (tree, .ok ())
    else
      match tree.makeDirectory text with
      | .ok tree => (tree, .ok ())
      | .error .notFound =>
        match path.parent? with
        | none => (tree, .error .notFound)
        | some parent =>
          match makeDirectories tree fuel parent with
          | (tree, .error e) => (tree, .error e)
          | (tree, .ok ()) =>
            match tree.makeDirectory text with
            | .ok tree => (tree, .ok ())
            | .error e => (tree, if tree.leadsToDirectory text then .ok () else .error e)
      | .error e => (tree, if tree.leadsToDirectory text then .ok () else .error e)

def makeParents (tree : Tree) (path : Path) : Tree × Except IoError Unit :=
  match path.parent? with
  | some parent => makeDirectories tree (parent.parts.length + 1) parent
  | none => (tree, .ok ())

/-- The sibling that the content of `path` is written to first. -/
def temporaryPath (path : Path) (name : String) : String :=
  join ((path.parent?.map Path.toString).getD "") ("." ++ name ++ ".tmp")

/-- Write a file by way of its sibling. If the file cannot be put in place, the sibling is taken away
again. -/
def writeAtomic (tree : Tree) (path : String) (content : ByteArray) :
    Tree × Except IoError Unit :=
  let target := Path.ofString path
  match makeParents tree target with
  | (tree, .error e) => (tree, .error e)
  | (tree, .ok ()) =>
    match target.name? with
    | none => (tree, .error (.noFileName path))
    | some name =>
      let sibling := temporaryPath target name
      match tree.writeFile sibling content with
      | .error e => (tree, .error e)
      | .ok written =>
        match written.renameFile sibling path with
        | .ok tree => (tree, .ok ())
        | .error e =>
          match written.removeFile sibling with
          | .ok tree => (tree, .error e)
          | .error _ => (written, .error e)

end RowTypes.Storage
