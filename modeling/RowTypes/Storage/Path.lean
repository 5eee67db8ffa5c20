/-!
Paths as texts. A path is a start (the root, the explicit here `.`, or nothing) and parts between
slashes. Empty parts and later `.` parts mean nothing: they count neither for the name and the
parent of a path nor for the question whether two paths are the same, but they stay in the text.
-/

namespace RowTypes.Storage

/-- Where a path starts. -/
inductive Start where
  /-- At the root: the path begins with a slash. -/
  | root
  /-- At the working directory, written as `.`. -/
  | here
  /-- At the working directory, without a word about it. -/
  | plain
  deriving DecidableEq, Repr

/-- A path, taken apart at its slashes. -/
structure Path where
  start : Start
  /-- What stands between the slashes after the start, down to the empty parts. -/
  parts : List String
  deriving DecidableEq, Repr

namespace Path

/-- The parts of a text between its slashes. -/
def split (s : List Char) : List String :=
  (s.splitOn '/').map String.ofList

def ofChars : List Char → Path
  | '/' :: r => ⟨.root, split r⟩
  | '.' :: '/' :: r => ⟨.here, split ('/' :: r)⟩
  | ['.'] => ⟨.here, [""]⟩
  | s => ⟨.plain, split s⟩

def ofString (s : String) : Path :=
  ofChars s.toList

def Start.text : Start → String
  | .root => "/"
  | .here => "."
  | .plain => ""

def toString (path : Path) : String :=
  Start.text path.start ++ "/".intercalate path.parts

/-- A part that means something. -/
def matters (part : String) : Bool :=
  !(part == "" || part == ".")

/-- The parts that mean something. -/
def steps (path : Path) : List String :=
  path.parts.filter matters

/-- Drop the parts at the end that mean nothing. -/
def trimParts (parts : List String) : List String :=
  (parts.reverse.dropWhile fun part => !matters part).reverse

/-- The name at the end of a path; `..` is no name. -/
def name? (path : Path) : Option String :=
  path.steps.getLast?.filter (· != "..")

/-- The path without its last step, as far as there is one. -/
def parent? (path : Path) : Option Path :=
  match trimParts path.parts with
  | [] => if path.start = .here then some ⟨.plain, []⟩ else none
  | parts => some ⟨path.start, trimParts parts.dropLast⟩

end Path

/-- The step from a directory to an entry of it: a slash stands between the two. -/
def join (base rest : String) : String :=
  if rest.toList.head? = some '/' then rest
  else if base.isEmpty || base.toList.getLast? = some '/' then base ++ rest
  else base ++ "/" ++ rest

def samePath (a b : String) : Bool :=
  let p := Path.ofString a
  let q := Path.ofString b
  decide (p.start = q.start) && p.steps == q.steps

end RowTypes.Storage
