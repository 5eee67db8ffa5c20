import RowTypes.Command
import RowTypes.Text.Utf8

/-!
A small shell: the programs that are there when no others are given. Known are `true`, `false` and
`sh -c script`; a script is a list of simple commands (`echo`, `printf`, `exit`, `kill`, `true`, `false`,
`:`) with quotes, parameters, the connectors `;`, `&&` and `||`, and redirections.
-/

namespace RowTypes.Shell

open Storage Text Command

/-! ## Words of a script -/

/-- Where the output of a command goes, or what is done with a file for it. -/
inductive Target where
  | file (path : List Char) (append : Bool)
  /-- Where another stream goes. -/
  | stream (number : Nat)

inductive Token where
  | word (chars : List Char)
  /-- `;` or a line feed. -/
  | next
  /-- `&&` -/
  | both
  /-- `||` -/
  | either
  /-- `>` for the output stream with this number; the next word is the file. -/
  | write (stream : Nat) (append : Bool)
  /-- `>&` for a stream; the next word is the number of another one. -/
  | duplicate (stream : Nat)

/-- What a script can look up: its parameters, the first of which is its own name. -/
structure Frame where
  parameters : List String

/-- The number that a script has for its own process. -/
def processNumber : String := "1"

/-- The value of the parameter that a character names. -/
def Frame.value (frame : Frame) (c : Char) : Option (List Char) :=
  if c.isDigit then some (frame.parameters.getD (c.toNat - '0'.toNat) "").toList
  else if c = '#' then some (toString (frame.parameters.length - 1)).toList
  else if c = '$' then some processNumber.toList
  else if c = '@' ∨ c = '*' then some (" ".intercalate (frame.parameters.drop 1)).toList
  else none

/-- How the current part of a word is quoted. -/
inductive Quoting where
  | none
  | single
  | double

/-- The word that was read so far, as a token. -/
def flush : Option (List Char) → List Token
  | some word => [.word word.reverse]
  | none => []

/-- The number of the stream that stands directly before `>`, and the word that does not count then. -/
def streamBefore : Option (List Char) → Nat × List Token
  | some [c] => if c.isDigit then (c.toNat - '0'.toNat, []) else (1, [.word [c]])
  | word => (1, flush word)

/-- Add characters to a word. -/
def grow (chars : List Char) (word : Option (List Char)) : Option (List Char) :=
  some (chars.reverse ++ word.getD [])

/-- The tokens of a script. `word` is the word that was begun, in reverse. -/
def tokens (frame : Frame) : Quoting → Option (List Char) → List Char → List Token
  | _, word, [] => flush word
  | .single, word, c :: r =>
    if c = '\'' then tokens frame .none (grow [] word) r
    else tokens frame .single (grow [c] word) r
  | .double, word, '"' :: r => tokens frame .none (grow [] word) r
  | .double, word, '\\' :: c :: r =>
    if c = '"' ∨ c = '\\' ∨ c = '$' then tokens frame .double (grow [c] word) r
    else tokens frame .double (grow ['\\', c] word) r
  | quoting, word, '$' :: c :: r =>
    match frame.value c with
    | some value => tokens frame quoting (grow value word) r
    | none => tokens frame quoting (grow ['$', c] word) r
  | .double, word, c :: r => tokens frame .double (grow [c] word) r
  | .none, word, '\'' :: r => tokens frame .single (grow [] word) r
  | .none, word, '"' :: r => tokens frame .double (grow [] word) r
  | .none, word, '\\' :: c :: r => tokens frame .none (grow [c] word) r
  | .none, word, '&' :: '&' :: r => flush word ++ .both :: tokens frame .none none r
  | .none, word, '|' :: '|' :: r => flush word ++ .either :: tokens frame .none none r
  | .none, word, '>' :: '>' :: r =>
    let (stream, before) := streamBefore word
    before ++ .write stream true :: tokens frame .none none r
  | .none, word, '>' :: '&' :: r =>
    let (stream, before) := streamBefore word
    before ++ .duplicate stream :: tokens frame .none none r
  | .none, word, '>' :: r =>
    let (stream, before) := streamBefore word
    before ++ .write stream false :: tokens frame .none none r
  | .none, word, c :: r =>
    if c = ';' ∨ c = '\n' then flush word ++ .next :: tokens frame .none none r
    else if c = ' ' ∨ c = '\t' then flush word ++ tokens frame .none none r
    else tokens frame .none (grow [c] word) r

/-! ## Simple commands -/

/-- When a command is run, by the status of the one before it. -/
inductive Condition where
  | always
  | afterSuccess
  | afterFailure

def Condition.holds (condition : Condition) (lastCode : Nat) : Bool :=
  match condition with
  | .always => true
  | .afterSuccess => lastCode == 0
  | .afterFailure => lastCode != 0

/-- A command and its arguments, and where its streams go. -/
structure Simple where
  condition : Condition := .always
  words : List (List Char) := []
  redirects : List (Nat × Target) := []

/-- The number that digits spell, or the default. -/
def numberOr (default : Nat) (digits : List Char) : Nat :=
  (String.ofList digits).toNat?.getD default

def commands (current : Simple) : List Token → List Simple
  | [] => [current]
  | .next :: r => current :: commands {} r
  | .both :: r => current :: commands { condition := .afterSuccess } r
  | .either :: r => current :: commands { condition := .afterFailure } r
  | .word w :: r => commands { current with words := current.words ++ [w] } r
  | .write stream append :: .word path :: r =>
    commands { current with redirects := current.redirects ++ [(stream, .file path append)] } r
  | .duplicate stream :: .word digits :: r =>
    commands { current with
      redirects := current.redirects ++ [(stream, .stream (numberOr 1 digits))] } r
  | _ :: r => commands current r

/-! ## Escapes -/

def isOctal (c : Char) : Bool :=
  '0' ≤ c && c ≤ '7'

def octalByte (digits : List Char) : UInt8 :=
  UInt8.ofNat (digits.foldl (fun n c => n * 8 + (c.toNat - '0'.toNat)) 0)

/-- The character that an escape of one letter stands for. -/
def escaped? : Char → Option Char
  | 'n' => some '\n'
  | 't' => some '\t'
  | 'r' => some '\r'
  | 'a' => some '\x07'
  | 'b' => some '\x08'
  | 'f' => some '\x0c'
  | 'v' => some '\x0b'
  | '\\' => some '\\'
  | '"' => some '"'
  | _ => none

/-- The bytes of a text with escapes, of which octal ones have one to three digits. -/
def unescape : List Char → List UInt8
  | '\\' :: a :: b :: c :: r =>
    if isOctal a && isOctal b && isOctal c then octalByte [a, b, c] :: unescape r
    else if isOctal a && isOctal b then octalByte [a, b] :: unescape (c :: r)
    else if isOctal a then octalByte [a] :: unescape (b :: c :: r)
    else
      match escaped? a with
      | some char => bytesOf [char] ++ unescape (b :: c :: r)
      | none => bytesOf ['\\', a] ++ unescape (b :: c :: r)
  | '\\' :: a :: r =>
    match escaped? a with
    | some char => bytesOf [char] ++ unescape r
    | none => (if isOctal a then [octalByte [a]] else bytesOf ['\\', a]) ++ unescape r
  | c :: r => bytesOf [c] ++ unescape r
  | [] => []

/-- A format with its `%s` filled in from the arguments. -/
def fillIn : List (List Char) → List Char → List Char
  | arguments, '%' :: 's' :: r => arguments.headD [] ++ fillIn arguments.tail r
  | arguments, '%' :: '%' :: r => '%' :: fillIn arguments r
  | arguments, c :: r => c :: fillIn arguments r
  | _, [] => []

/-! ## Running -/

/-- Where a stream goes. -/
inductive Sink where
  /-- The output stream of the script, which nobody reads. -/
  | nowhere
  | errors
  | file (path : String)

/-- What running a command needs to know and may change. -/
structure State where
  tree : Tree
  errors : List UInt8 := []
  code : Nat := 0
  ended : Option Status := none

def State.write (state : State) (sink : Sink) (bytes : List UInt8) : State :=
  match sink with
  | .nowhere => state
  | .errors => { state with errors := state.errors ++ bytes }
  | .file path =>
    match state.tree.appendFile path ⟨bytes.toArray⟩ with
    | .ok tree => { state with tree }
    | .error _ => state

/-- The sinks of the output stream and of the error stream. -/
structure Sinks where
  output : Sink := .nowhere
  errors : Sink := .errors

def Sinks.get (sinks : Sinks) (stream : Nat) : Sink :=
  if stream = 2 then sinks.errors else sinks.output

def Sinks.set (sinks : Sinks) (stream : Nat) (sink : Sink) : Sinks :=
  if stream = 2 then { sinks with errors := sink } else { sinks with output := sink }

/-- Open the files of redirections in their order; nothing if one cannot be opened. -/
def openSinks (tree : Tree) (sinks : Sinks) : List (Nat × Target) → Option (Tree × Sinks)
  | [] => some (tree, sinks)
  | (stream, .stream other) :: rest => openSinks tree (sinks.set stream (sinks.get other)) rest
  | (stream, .file path append) :: rest =>
    let path := String.ofList path
    let opened :=
      if append then tree.appendFile path ByteArray.empty else tree.writeFile path ByteArray.empty
    match opened with
    | .ok tree => openSinks tree (sinks.set stream (.file path)) rest
    | .error _ => none

/-- The signal that an argument such as `-9` or `-TERM` names. -/
def signalOf (argument : List Char) : Nat :=
  let name := argument.drop 1
  match Status.signalNames.find? fun entry => entry.2.toList == "SIG".toList ++ name with
  | some (number, _) => number
  | none => numberOr 15 name

/-- Run a command whose streams are open. -/
def perform (state : State) (sinks : Sinks) : List (List Char) → State
  | [] => state
  | program :: arguments =>
    match String.ofList program with
    | "true" => { state with code := 0 }
    | ":" => { state with code := 0 }
    | "false" => { state with code := 1 }
    | "echo" =>
      { state.write sinks.output (unescape ([' '].intercalate arguments) ++ bytesOf ['\n']) with
        code := 0 }
    | "printf" =>
      { state.write sinks.output (unescape (fillIn arguments.tail (arguments.headD []))) with
        code := 0 }
    | "exit" =>
      { state with ended := some (.exited (numberOr state.code (arguments.headD []) % 256)) }
    | "kill" =>
      if arguments.getLast? = some processNumber.toList then
        { state with ended := some (.killed (signalOf (arguments.headD []))) }
      else { state with code := 1 }
    | name =>
      { state.write sinks.errors (bytesOf ("sh: 1: " ++ name ++ ": not found\n").toList) with
        code := 127 }

def State.step (state : State) (command : Simple) : State :=
  if state.ended.isSome || !command.condition.holds state.code then state
  else
    match openSinks state.tree {} command.redirects with
    | some (tree, sinks) => perform { state with tree } sinks command.words
    | none => { state with code := 2 }

def runScript (tree : Tree) (script : String) (parameters : List String) : Outcome :=
  let list := commands {} (tokens ⟨parameters⟩ .none none script.toList)
  let state := list.foldl State.step { tree }
  { status := state.ended.getD (.exited state.code), errors := state.errors, nodes := state.tree.nodes }

def startError (tree : Tree) (program : String) : IoError :=
  if program.toList.contains '/' then
    match tree.locate program with
    | .ok _ => .permissionDenied
    | .error e => e
  else .notFound

/-- Run one of the known programs. -/
def launch : Launcher := fun tree program arguments =>
  match program, arguments with
  | "true", _ => .ok ⟨.exited 0, [], tree.nodes⟩
  | "false", _ => .ok ⟨.exited 1, [], tree.nodes⟩
  | "sh", "-c" :: script :: parameters =>
    .ok (runScript tree script (if parameters.isEmpty then ["sh"] else parameters))
  | "sh", _ => .ok ⟨.exited 2, [], tree.nodes⟩
  | _, _ => .error (startError tree program).message

end RowTypes.Shell
