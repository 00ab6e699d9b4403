import AuditShell.Failure
/-!
# The machine

What the shell asks of the operating system: files for redirects, pipes, processes, the working
directory. Files, pipes and processes are numbered by the shell, so a machine never has to invent a
handle. A machine is any implementation of these requests; what holds of the shell for every machine
holds whatever the system does.

Between two requests the rest of the world goes on: children write to the streams of the line,
signals are sent, the line is cancelled. `Machine.meanwhile` says what has happened since the last
look.
-/
namespace AuditShell

/-- The output streams of a line. -/
inductive Stream where
  | out
  | err
  deriving DecidableEq, Repr

/-- Where a process reads from. -/
inductive Source where
  /-- The standard input of the shell. -/
  | shell
  | pipe (number : Nat)
  | file (number : Nat)
  deriving DecidableEq, Repr

/-- Where a process writes to. -/
inductive Sink where
  /-- The standard output of the line. -/
  | line
  | pipe (number : Nat)
  | file (number : Nat)
  deriving DecidableEq, Repr

/-- A process to be started. -/
structure Launch where
  words : List Bytes
  stdin : Source
  stdout : Sink
  /-- The stream of the line that is its standard error. -/
  stderr : Stream
  deriving DecidableEq, Repr

/-- How a process ended. -/
inductive Ended where
  | code (n : Int)
  | signal (number : Nat)
  deriving DecidableEq, Repr

/-- The status of an ended process: a signal counts from 128. -/
def Ended.status : Ended → Int
  | .code n => n
  | .signal s => 128 + s

/-- What happens outside the shell. -/
inductive Happening where
  | wrote (stream : Stream) (bytes : Bytes)
  | sent (signal : Signal)
  | cancelled
  deriving DecidableEq, Repr

/-- What the end of a wait can be, given the pending signal and whether the line is cancelled: a
signal can only be taken if there is one. -/
inductive Wake : Option Signal → Bool → Type where
  /-- The process has ended, or waiting for it failed. -/
  | exit {p : Option Signal} {c : Bool} (r : Except OsError Ended) : Wake p c
  /-- The signal was taken. `raced` is the end of the process if it had ended by then. -/
  | signal {s : Signal} {c : Bool} (raced : Option (Except OsError Ended)) : Wake (some s) c
  /-- The line was cancelled. -/
  | cancel {p : Option Signal} : Wake p true

/-- The end of a wait without its conditions. -/
inductive WakeView where
  | exit (r : Except OsError Ended)
  | signal (s : Signal) (raced : Option (Except OsError Ended))
  | cancel

/-- The end of a wait without its conditions. -/
def Wake.view {p : Option Signal} {c : Bool} : Wake p c → WakeView
  | .exit r => .exit r
  | @Wake.signal s _ raced => .signal s raced
  | .cancel => .cancel

/-- The requests that the shell makes, over the states of a world. -/
structure Machine (σ : Type) where
  /-- Opens a file for reading under a number. -/
  openRead : (file : Nat) → (path : Bytes) → σ → Option OsError × σ
  /-- Makes or empties a file, or opens it to append to it, under a number. -/
  openWrite : (file : Nat) → (append : Bool) → (path : Bytes) → σ → Option OsError × σ
  /-- Closes a file. -/
  closeFile : (file : Nat) → σ → σ
  /-- Makes a pipe under a number. -/
  makePipe : (pipe : Nat) → σ → Option OsError × σ
  /-- Closes the shell's reading end of a pipe. -/
  closeReader : (pipe : Nat) → σ → σ
  /-- Closes the shell's writing end of a pipe. -/
  closeWriter : (pipe : Nat) → σ → σ
  /-- Starts a process under a number. -/
  spawn : (process : Nat) → Launch → σ → Option OsError × σ
  /-- Kills a process. -/
  kill : (process : Nat) → σ → σ
  /-- Waits for the end of a process, whatever happens. -/
  reap : (process : Nat) → σ → Except OsError Ended × σ
  /-- Waits for the end of a process, a signal or the end of the line. -/
  wake : (process : Nat) → (pending : Option Signal) → (cancelled : Bool) → σ → Wake pending cancelled × σ
  /-- Changes the working directory. -/
  chdir : Bytes → σ → Option OsError × σ
  /-- The working directory. -/
  cwd : σ → Bytes
  /-- What has happened since the last look. -/
  meanwhile : σ → List Happening × σ

end AuditShell
