import RowTypes.Storage.Tree

/-!
Commands: programs that are started with arguments, such as formatters. Which programs there are and what
they do is not known here: whatever runs one takes a `Launcher` that says what comes of a program.
-/

namespace RowTypes.Command

open Storage

/-- How a program ended. -/
inductive Status where
  | exited (code : Nat)
  | killed (signal : Nat) (dumped : Bool := false)
  deriving DecidableEq, Repr

namespace Status

def isSuccess : Status → Bool
  | exited code => code == 0
  | killed .. => false

def signalNames : List (Nat × String) :=
  [(1, "SIGHUP"), (2, "SIGINT"), (3, "SIGQUIT"), (4, "SIGILL"), (5, "SIGTRAP"), (6, "SIGABRT"),
    (7, "SIGBUS"), (8, "SIGFPE"), (9, "SIGKILL"), (10, "SIGUSR1"), (11, "SIGSEGV"), (12, "SIGUSR2"),
    (13, "SIGPIPE"), (14, "SIGALRM"), (15, "SIGTERM"), (16, "SIGSTKFLT"), (17, "SIGCHLD"),
    (18, "SIGCONT"), (19, "SIGSTOP"), (20, "SIGTSTP"), (21, "SIGTTIN"), (22, "SIGTTOU"),
    (23, "SIGURG"), (24, "SIGXCPU"), (25, "SIGXFSZ"), (26, "SIGVTALRM"), (27, "SIGPROF"),
    (28, "SIGWINCH"), (29, "SIGIO"), (30, "SIGPWR"), (31, "SIGSYS")]

def describe : Status → String
  | exited code => "exit status: " ++ toString code
  | killed signal dumped =>
    "signal: " ++ toString signal ++
      (match signalNames.lookup signal with
        | some name => " (" ++ name ++ ")"
        | none => "") ++
      if dumped then " (core dumped)" else ""

end Status

/-- What a program leaves: any files, but no working directory, since that of the process that started it
stays. -/
structure Outcome where
  status : Status
  /-- What it wrote to its error stream. -/
  errors : List UInt8
  nodes : List (Location × Node)

/-- What comes of a program and its arguments on a file tree, or the text of why it did not start. No run
starts a program twice with the same arguments, so whatever programs do in a run, some launcher does. -/
abbrev Launcher := Tree → String → List String → Except String Outcome

/-- Start a program, unless a word of the command holds a zero. -/
def start (launch : Launcher) (tree : Tree) (program : String) (arguments : List String) :
    Except String Outcome :=
  if (program :: arguments).any fun word => word.toList.contains '\x00' then
    .error IoError.zeroInArgument.message
  else launch tree program arguments

end RowTypes.Command
