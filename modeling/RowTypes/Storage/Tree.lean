import RowTypes.Storage.Path

/-!
A tree of files and directories, and a process that works in one of the directories. Each operation
either yields the changed tree or an error and then changes nothing. Paths are walked step by step:
every step but the last has to lead to a directory, and a `..` leads to the directory above.
-/

namespace RowTypes.Storage

/-- Why an operation on files failed. -/
inductive IoError where
  | notFound
  | alreadyExists
  | notDirectory
  | isDirectory
  | nameTooLong
  | busy
  | permissionDenied
  | notUtf8
  /-- A path holds a zero character. -/
  | zeroInPath
  /-- A command or an argument of it holds a zero character. -/
  | zeroInArgument
  /-- The path of a file to write has no name at its end. -/
  | noFileName (path : String)
  deriving DecidableEq, Repr

namespace IoError

def message : IoError → String
  | notFound => "No such file or directory (os error 2)"
  | alreadyExists => "File exists (os error 17)"
  | notDirectory => "Not a directory (os error 20)"
  | isDirectory => "Is a directory (os error 21)"
  | nameTooLong => "File name too long (os error 36)"
  | busy => "Device or resource busy (os error 16)"
  | permissionDenied => "Permission denied (os error 13)"
  | notUtf8 => "stream did not contain valid UTF-8"
  | zeroInPath => "file name contained an unexpected NUL byte"
  | zeroInArgument => "nul byte found in provided data"
  | noFileName path => "invalid path for atomic write: " ++ path

end IoError

/-- The names on the way from the root to an entry. -/
abbrev Location := List String

/-- What stands at a location. -/
inductive Node where
  | file (content : ByteArray)
  | directory

instance : DecidableEq Node
  | .file content, .file other =>
    haveI := ByteArray.instDecidableEq content other
    decidable_of_iff (content = other) ⟨congrArg Node.file, Node.file.inj⟩
  | .file _, .directory => isFalse nofun
  | .directory, .file _ => isFalse nofun
  | .directory, .directory => isTrue rfl

/-- All entries below the root, and the directory that relative paths start from. -/
structure Tree where
  nodes : List (Location × Node) := []
  workDir : Location := []
  deriving DecidableEq

namespace Tree

/-- What stands at a location; the root is always a directory. -/
def get? (tree : Tree) (loc : Location) : Option Node :=
  if loc.isEmpty then some .directory else tree.nodes.lookup loc

/-- Put an entry at a location in place of what stands there. -/
def put (tree : Tree) (loc : Location) (node : Node) : Tree :=
  { tree with nodes := tree.nodes.filter (fun entry => entry.1 != loc) ++ [(loc, node)] }

def erase (tree : Tree) (loc : Location) : Tree :=
  { tree with nodes := tree.nodes.filter fun entry => entry.1 != loc }

def isDirectory (tree : Tree) (loc : Location) : Bool :=
  tree.get? loc = some .directory

/-- The greatest length of a name, in bytes. -/
def maxName : Nat := 255

/-- The least length in bytes at which a path is too long. -/
def pathLimit : Nat := 4096

/-- One step from a location to an entry that is there. -/
def enter (tree : Tree) (loc : Location) (step : String) : Except IoError Location :=
  if !tree.isDirectory loc then .error .notDirectory
  else if step = "." then .ok loc
  else if step = ".." then .ok loc.dropLast
  else if maxName < step.utf8ByteSize then .error .nameTooLong
  else if (tree.get? (loc ++ [step])).isSome then .ok (loc ++ [step])
  else .error .notFound

/-- Some steps from a location. -/
def walk (tree : Tree) (loc : Location) (steps : List String) : Except IoError Location :=
  steps.foldlM tree.enter loc

/-- A path as it is walked: from where, in which steps, and whether it insists on a directory. -/
structure Route where
  start : Location
  steps : List String
  endsWithSlash : Bool

def route (tree : Tree) (path : String) : Except IoError Route :=
  if path.toList.contains '\x00' then .error .zeroInPath
  else if path.isEmpty then .error .notFound
  else if pathLimit ≤ path.utf8ByteSize then .error .nameTooLong
  else
    .ok
      { start := if path.toList.head? = some '/' then [] else tree.workDir
        steps := (Path.split path.toList).filter (· != "")
        endsWithSlash := path.toList.getLast? = some '/' }

/-- The end of a route whose last step need not be there. -/
inductive Last where
  /-- A name in a directory. -/
  | name (name : String)
  /-- The root, or a step that leads to the directory itself or the one above. -/
  | special

/-- The directory that the last step of a route starts from, and that step. -/
def parentOf (tree : Tree) (route : Route) : Except IoError (Location × Last) :=
  match route.steps.getLast? with
  | none => .ok (route.start, .special)
  | some step =>
    match tree.walk route.start route.steps.dropLast with
    | .error e => .error e
    | .ok dir =>
      if !tree.isDirectory dir then .error .notDirectory
      else if step = "." ∨ step = ".." then .ok (dir, .special)
      else .ok (dir, .name step)

/-- The location of an entry that is there. -/
def locate (tree : Tree) (path : String) : Except IoError Location :=
  match tree.route path with
  | .error e => .error e
  | .ok route =>
    match tree.walk route.start route.steps with
    | .error e => .error e
    | .ok loc =>
      if route.endsWithSlash && !tree.isDirectory loc then .error .notDirectory else .ok loc

def leadsToDirectory (tree : Tree) (path : String) : Bool :=
  match tree.locate path with
  | .ok loc => tree.isDirectory loc
  | .error _ => false

def readBytes (tree : Tree) (path : String) : Except IoError ByteArray :=
  match tree.locate path with
  | .error e => .error e
  | .ok loc =>
    match tree.get? loc with
    | some (.file content) => .ok content
    | some .directory => .error .isDirectory
    | none => .error .notFound

def readText (tree : Tree) (path : String) : Except IoError String :=
  match tree.readBytes path with
  | .error e => .error e
  | .ok content =>
    match String.fromUTF8? content with
    | some text => .ok text
    | none => .error .notUtf8

def makeDirectory (tree : Tree) (path : String) : Except IoError Tree :=
  match (tree.route path).bind tree.parentOf with
  | .error e => .error e
  | .ok (_, .special) => .error .alreadyExists
  | .ok (dir, .name name) =>
    if maxName < name.utf8ByteSize then .error .nameTooLong
    else if (tree.get? (dir ++ [name])).isSome then .error .alreadyExists
    else .ok (tree.put (dir ++ [name]) .directory)

/-- Where a file that is to be written stands; there may be none yet. -/
def locateFile (tree : Tree) (path : String) : Except IoError Location :=
  match tree.route path with
  | .error e => .error e
  | .ok route =>
    match tree.parentOf route with
    | .error e => .error e
    | .ok (_, .special) => .error .isDirectory
    | .ok (dir, .name name) =>
      if maxName < name.utf8ByteSize then .error .nameTooLong
      else if route.endsWithSlash || tree.isDirectory (dir ++ [name]) then .error .isDirectory
      else .ok (dir ++ [name])

def writeFile (tree : Tree) (path : String) (content : ByteArray) : Except IoError Tree :=
  (tree.locateFile path).map fun loc => tree.put loc (.file content)

/-- Add bytes at the end of a file, which is made if it is not there. -/
def appendFile (tree : Tree) (path : String) (content : ByteArray) : Except IoError Tree :=
  (tree.locateFile path).map fun loc =>
    match tree.get? loc with
    | some (.file old) => tree.put loc (.file (old ++ content))
    | _ => tree.put loc (.file content)

def removeFile (tree : Tree) (path : String) : Except IoError Tree :=
  match tree.locate path with
  | .error e => .error e
  | .ok loc => if tree.isDirectory loc then .error .isDirectory else .ok (tree.erase loc)

/-- Move a file to another path, over a file that may stand there. -/
def renameFile (tree : Tree) (source target : String) : Except IoError Tree := do
  let loc ← tree.locate source
  let content ← tree.readBytes source
  let route ← tree.route target
  match ← tree.parentOf route with
  | (_, .special) => throw .busy
  | (dir, .name name) =>
    if maxName < name.utf8ByteSize then throw .nameTooLong
    if route.endsWithSlash then throw .notDirectory
    if tree.isDirectory (dir ++ [name]) then throw .isDirectory
    return (tree.erase loc).put (dir ++ [name]) (.file content)

/-- The entries below the working directory, by their paths from there. -/
def listing (tree : Tree) : List (String × Node) :=
  tree.nodes.filterMap fun (loc, node) =>
    if tree.workDir.isPrefixOf loc && tree.workDir.length < loc.length then
      some ("/".intercalate (loc.drop tree.workDir.length), node)
    else none

/-- An empty working directory below the root. -/
def fresh : Tree :=
  { nodes := [(["work"], .directory)], workDir := ["work"] }

end Tree

end RowTypes.Storage
