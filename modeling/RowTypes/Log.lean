import RowTypes.Json.Printer
import RowTypes.Text.Blank

/-!
The log: what the parts of the program note while they work, and the filter that decides which notes
are written. A filter names levels, for all origins or for those whose name begins in some way. Notes hold
no durations, and of where they are written only the log file is told.
-/

namespace RowTypes

/-- How important a note is. -/
inductive Level where
  | error
  | warn
  | info
  | debug
  | trace
  deriving DecidableEq, Repr, Inhabited

namespace Level

def name : Level → String
  | error => "ERROR"
  | warn => "WARN"
  | info => "INFO"
  | debug => "DEBUG"
  | trace => "TRACE"

def all : List Level :=
  [error, warn, info, debug, trace]

/-- How many levels are as important or more. -/
def rank : Level → Nat
  | error => 1
  | warn => 2
  | info => 3
  | debug => 4
  | trace => 5

end Level

/-- Which part of the program noted something. -/
inductive Origin where
  | commandLine
  | introspection
  | generation
  deriving DecidableEq, Repr, Inhabited

def Origin.name : Origin → String
  | commandLine => "ddlstruct"
  | introspection => "ddlstruct_introspect"
  | generation => "ddlstruct_generate"

/-- A note. It has an event, a message, or both. -/
structure LogEntry where
  level : Level
  origin : Origin
  event : Option String := none
  message : Option String := none
  fields : List (String × Json) := []

namespace LogEntry

/-- What the note is about: its event, or its message if it has no event. -/
def title (entry : LogEntry) : String :=
  (entry.event <|> entry.message).getD ""

/-- The note as a JSON object, with the time at which it is written. -/
def toJson (time : String) (entry : LogEntry) : Json :=
  let optional (key : String) (value : Option String) : List (String × Json) :=
    (value.map fun s => (key, Json.str s)).toList
  Json.ofMembers
    [("timestamp", Json.str time), ("level", Json.str entry.level.name),
      ("fields", Json.ofMembers
        (optional "message" entry.message ++ optional "event" entry.event ++ entry.fields)),
      ("target", Json.str entry.origin.name)]

def line (time : String) (entry : LogEntry) : String :=
  (entry.toJson time).compact ++ "\n"

end LogEntry

/-- A part of a filter: for the origins whose names begin with `origin`, the number of levels that
pass. -/
structure Directive where
  origin : String := ""
  levels : Nat
  deriving DecidableEq, Repr

/-- Which notes are written. -/
structure LogFilter where
  directives : List Directive
  deriving DecidableEq, Repr

namespace LogFilter

/-- Notes of the level `info` and above. -/
def standard : LogFilter :=
  ⟨[{ levels := Level.info.rank }]⟩

/-- The number of levels that a level name stands for, in any case; `off` stands for none. -/
def levels? (s : String) : Option Nat :=
  if s.toUpper = "OFF" then some 0
  else (Level.all.find? fun level => level.name = s.toUpper).map Level.rank

/-- A name of an origin as a filter may hold it. -/
def isOriginName (s : List Char) : Bool :=
  !s.isEmpty && s.all fun c => c.isAlphanum || c == '_' || c == ':' || c == '-'

/-- Read `level`, `origin` or `origin=level`. -/
def directive? (s : List Char) : Option Directive :=
  match levels? (String.ofList s) with
  | some levels => some { levels }
  | none =>
    match s.span (· != '=') with
    | (origin, rest) =>
      if !isOriginName origin then none
      else
        match rest with
        | [] => some ⟨String.ofList origin, Level.trace.rank⟩
        | _ :: level =>
          if level.isEmpty then some ⟨String.ofList origin, Level.trace.rank⟩
          else (levels? (String.ofList level)).map (⟨String.ofList origin, ·⟩)

/-- Read a filter, a list of directives parted by commas. One without directives lets only errors
pass. -/
def parse? (s : String) : Option LogFilter :=
  match (((s.toList.splitOn ',').map Text.trim).filter (!·.isEmpty)).mapM directive? with
  | none => none
  | some [] => some ⟨[{ levels := Level.error.rank }]⟩
  | some directives => some ⟨directives⟩

/-- The filter that a setting asks for; without one, or with one that cannot be read, the standard
one. -/
def ofSetting (setting : Option String) : LogFilter :=
  (setting.bind parse?).getD standard

/-- The directive for an origin: of those that name it the one with the longest name, and of these
the last. -/
def directiveFor (filter : LogFilter) (origin : Origin) : Option Directive :=
  (filter.directives.filter fun d => d.origin.toList.isPrefixOf origin.name.toList).foldl
    (fun best d =>
      match best with
      | some b => if b.origin.length ≤ d.origin.length then some d else some b
      | none => some d)
    none

def passes (filter : LogFilter) (entry : LogEntry) : Bool :=
  match filter.directiveFor entry.origin with
  | some d => entry.level.rank ≤ d.levels
  | none => false

end LogFilter

end RowTypes
