import RowTypes.CommandLine.Selector
import RowTypes.Server.Basic

/-!
Arguments: how the words of a command line become a command. A command has options with a value and
flags. An option takes the next word as its value, or what stands after `=` in its own. Whether that
value is fit is looked at when the next option comes up or the words end, so that a word which fits
nowhere is reported first.
-/

namespace RowTypes

/-- Why a command line is no command. -/
inductive UsageError where
  /-- Help was asked for. -/
  | help
  /-- The version was asked for. -/
  | version
  /-- Nothing was asked for. -/
  | nothing
  | missingCommand
  | unknownCommand
  | missingArgument
  /-- Two arguments exclude each other, or one that may stand once stands twice. -/
  | conflict
  | unknownArgument
  /-- An option has no value or an unfit one. -/
  | unfitValue
  /-- A flag has a value. -/
  | unexpectedValue
  deriving DecidableEq, Repr

/-- What follows an option. -/
inductive OptionKind where
  /-- Nothing. -/
  | flag
  /-- Any text. -/
  | text
  /-- A path, which is not empty. -/
  | path
  deriving DecidableEq, Repr

/-- An option of a command. -/
structure CommandOption where
  name : String
  kind : OptionKind
  repeatable : Bool := false
  deriving DecidableEq, Repr

namespace Arguments

/-- What a word may be. -/
inductive Word where
  /-- `--name` or `--name=value`. -/
  | long (name : String) (value : Option String)
  /-- `-` and letters. -/
  | short (letters : List Char)
  /-- `--` -/
  | separator
  | plain (text : String)
  deriving DecidableEq, Repr

def Word.ofString (text : String) : Word :=
  match text.toList with
  | ['-', '-'] => .separator
  | '-' :: '-' :: r =>
    match r.span (· != '=') with
    | (name, _ :: value) => .long (String.ofList name) (some (String.ofList value))
    | (name, []) => .long (String.ofList name) none
  | '-' :: c :: r => .short (c :: r)
  | _ => .plain text

/-- What was read of a command line. -/
structure Reading where
  /-- The options whose values were found fit, each with its value. -/
  settled : List (String × String) := []
  /-- The last option, and its value if that was read. -/
  pending : Option (CommandOption × Option String) := none
  deriving DecidableEq, Repr

namespace Reading

def values (reading : Reading) (name : String) : List String :=
  (reading.settled.filter (·.1 == name)).map (·.2)

def has (reading : Reading) (name : String) : Bool :=
  !(reading.values name).isEmpty

/-- Look at the value of the last option. -/
def settle (reading : Reading) : Except UsageError Reading :=
  match reading.pending with
  | none => .ok reading
  | some (_, none) => .error .unfitValue
  | some (option, some value) =>
    if !option.repeatable && reading.has option.name then .error .conflict
    else if option.kind = .path ∧ value.isEmpty then .error .unfitValue
    else .ok { settled := reading.settled ++ [(option.name, value)] }

/-- Whether the next plain word is the value of an option. -/
def awaitsValue (reading : Reading) : Bool :=
  match reading.pending with
  | some (_, none) => true
  | _ => false

/-- Take a plain word for the value that is awaited. -/
def supply (reading : Reading) (value : String) : Reading :=
  { reading with pending := reading.pending.map fun (option, _) => (option, some value) }

/-- Take an option, settling the one before it. One with its value in the same word is settled at
once. -/
def take (reading : Reading) (option : CommandOption) (value : Option String) :
    Except UsageError Reading :=
  match option.kind, value with
  | .flag, some _ => .error .unexpectedValue
  | .flag, none =>
    reading.settle.bind fun reading => { reading with pending := some (option, some "") }.settle
  | _, some value =>
    reading.settle.bind fun reading => { reading with pending := some (option, some value) }.settle
  | _, none => reading.settle.map fun reading => { reading with pending := some (option, none) }

end Reading

/-- The options of a command, and whether it tells its version. -/
structure Grammar where
  options : List CommandOption
  hasVersion : Bool

/-- The answer to a request for help or the version, once the last option is settled. -/
def Reading.answer (reading : Reading) (answer : UsageError) : UsageError :=
  match reading.settle with
  | .ok _ => answer
  | .error e => e

def takeDashed (grammar : Grammar) (reading : Reading) : Word → Except UsageError Reading
  | .long name value =>
    match grammar.options.find? fun option => option.name == name with
    | some option => reading.take option value
    | none =>
      if name = "help" ∨ (name = "version" ∧ grammar.hasVersion) then
        if value.isSome then .error .unexpectedValue
        else .error (reading.answer (if name = "help" then .help else .version))
      else .error .unknownArgument
  | .short ('h' :: _) => .error (reading.answer .help)
  | .short ('V' :: _) =>
    .error (if grammar.hasVersion then reading.answer .version else .unknownArgument)
  | _ => .error .unknownArgument

/-! ## Commands -/

/-- Where the tables come from. -/
inductive Source where
  /-- The snapshot at a path. -/
  | snapshot (path : String)
  /-- The server with a connection string. -/
  | server (connection : String)
  deriving DecidableEq, Repr

/-- Which tables are loaded. -/
structure LoadRequest where
  source : Source
  schemas : List String
  options : LoadOptions
  deriving DecidableEq, Repr

/-- What is generated. -/
structure GenerateRequest where
  config : String
  load : LoadRequest
  selectors : List Selector
  /-- Fail a table whose reference to another table cannot be resolved. -/
  strict : Bool
  report : Option String
  deriving DecidableEq, Repr

/-- What a snapshot is made of, and where it is written to. -/
structure SnapshotRequest where
  load : LoadRequest
  out : String
  deriving DecidableEq, Repr

/-- What is to be done. -/
inductive Job where
  | generate (request : GenerateRequest)
  | snapshot (request : SnapshotRequest)
  deriving DecidableEq, Repr

/-- A job, and the file of its log. -/
structure Invocation where
  job : Job
  logFile : Option String
  deriving DecidableEq, Repr

def logFileOption : CommandOption :=
  { name := "log-file", kind := .path }

/-- The options of every command. -/
def loadOptions : List CommandOption :=
  [{ name := "conn", kind := .text }, { name := "snapshot", kind := .path },
    { name := "schema", kind := .text, repeatable := true }, { name := "no-views", kind := .flag },
    { name := "no-comments", kind := .flag }, logFileOption]

def generateGrammar : Grammar :=
  { options := loadOptions ++
      [{ name := "config", kind := .path }, { name := "table", kind := .text, repeatable := true },
        { name := "strict", kind := .flag }, { name := "report", kind := .path }]
    hasVersion := false }

def snapshotGrammar : Grammar :=
  { options := loadOptions ++ [{ name := "out", kind := .path }], hasVersion := false }

/-- The options before a command. -/
def rootGrammar : Grammar :=
  { options := [logFileOption], hasVersion := true }

/-- Read the words after the name of a command. No word stands by itself. -/
def readCommand (grammar : Grammar) : Reading → List String → Except UsageError Reading
  | reading, [] => reading.settle
  | reading, text :: rest =>
    match Word.ofString text with
    | .plain value =>
      if reading.awaitsValue then readCommand grammar (reading.supply value) rest
      else .error .unknownArgument
    | .separator => if rest.isEmpty then reading.settle else .error .unknownArgument
    | word =>
      match takeDashed grammar reading word with
      | .ok reading => readCommand grammar reading rest
      | .error e => .error e

/-- The value of an option that has to be there. -/
def required (reading : Reading) (name : String) : Except UsageError String :=
  match reading.values name with
  | value :: _ => .ok value
  | [] => .error .missingArgument

/-- The value of an option that may be missing. -/
def optional (reading : Reading) (name : String) : Option String :=
  (reading.values name).head?

/-- Which tables are loaded: from a snapshot or from a server, and from at least one schema. -/
def loadRequest (reading : Reading) : Except UsageError LoadRequest := do
  if reading.has "snapshot" && reading.has "conn" then throw .conflict
  let source ←
    match optional reading "snapshot" with
    | some path => pure (Source.snapshot path)
    | none => (required reading "conn").map Source.server
  discard (required reading "schema")
  return {
    source
    schemas := reading.values "schema"
    options :=
      { includeViews := !reading.has "no-views", includeComments := !reading.has "no-comments" } }

def generateRequest (reading : Reading) : Except UsageError GenerateRequest := do
  let load ← loadRequest reading
  return {
    config := ← required reading "config"
    load
    selectors := (reading.values "table").map Selector.parse
    strict := reading.has "strict"
    report := optional reading "report" }

def snapshotRequest (reading : Reading) : Except UsageError SnapshotRequest := do
  let load ← loadRequest reading
  return { load, out := ← required reading "out" }

/-- The names that may stand for a command. -/
def commandNames : List String :=
  ["generate", "snapshot", "help"]

/-- The answer to a request for help about a command. -/
def helpAbout : List String → UsageError
  | [] => .help
  | [name] => if commandNames.contains name then .help else .unknownCommand
  | _ => .unknownCommand

/-- Read a command from its name and the words after it. -/
def commandOf (name : String) (words : List String) :
    Except UsageError (Job × Option String) :=
  match name with
  | "generate" => do
    let reading ← readCommand generateGrammar {} words
    return (.generate (← generateRequest reading), optional reading "log-file")
  | "snapshot" => do
    let reading ← readCommand snapshotGrammar {} words
    return (.snapshot (← snapshotRequest reading), optional reading "log-file")
  | "help" => .error (helpAbout words)
  | _ => .error .unknownCommand

/-- Read a command line. `afterSeparator` holds once `--` was read: no command can follow then. The
options before the command are settled after it was read, and its own log file comes before theirs. -/
def readInvocation (afterSeparator : Bool) : Reading → List String → Except UsageError Invocation
  | reading, [] =>
    match reading.settle with
    | .error e => .error e
    | .ok reading => .error (if reading.settled.isEmpty then .nothing else .missingCommand)
  | reading, text :: rest =>
    if afterSeparator then
      .error (if commandNames.contains text then .unknownArgument else .unknownCommand)
    else
      match Word.ofString text with
      | .plain value =>
        if reading.awaitsValue then readInvocation false (reading.supply value) rest
        else
          match commandOf value rest with
          | .error e => .error e
          | .ok (job, logFile) =>
            reading.settle.map fun reading =>
              { job, logFile := logFile <|> optional reading "log-file" }
      | .separator => readInvocation true reading rest
      | word =>
        match takeDashed rootGrammar reading word with
        | .ok reading => readInvocation false reading rest
        | .error e => .error e

/-- Read a command line without the name of the program. -/
def parse (words : List String) : Except UsageError Invocation :=
  readInvocation false {} words

end Arguments

end RowTypes
