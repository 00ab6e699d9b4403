import AuditShell.Audit.Log
import AuditShell.Builtin
import AuditShell.Machine
/-!
# The state of the shell

What the shell keeps while it runs lines: the world, the interrupt slot, the children in the
foreground, the output captured for the line, and a journal of everything that it did.
-/
namespace AuditShell

/-- What becomes of the shell when it is asked to exit. -/
inductive ExitHook where
  /-- The request is noted and the shell goes on. -/
  | returns
  /-- The shell ends at once. -/
  | terminates
  deriving DecidableEq, Repr

/-- How a shell is set up. -/
structure Settings where
  registry : Registry := .default
  /-- Whether the output of a line is collected instead of passed on. -/
  capture : Bool := false
  /-- Whether collected standard output is passed on before the exit hook is called. -/
  flushOut : Bool := false
  /-- Whether collected standard error is passed on before the exit hook is called. -/
  flushErr : Bool := false
  hook : ExitHook := .returns

/-- What the shell does, in the order in which it does it. -/
inductive Event where
  /-- Signals of earlier lines were dropped. -/
  | dropped (count : Nat)
  /-- A pipeline is started. -/
  | pipeline (line : Bytes)
  | opened (file : Nat) (redirect : Redirect)
  | closed (file : Nat)
  | piped (pipe : Nat)
  | readerClosed (pipe : Nat)
  | writerClosed (pipe : Nat)
  /-- A builtin is run. -/
  | builtin (name : Bytes) (args : List Bytes)
  | spawned (process : Nat) (launch : Launch)
  /-- A process was waited for. -/
  | waited (process : Nat)
  /-- A stream of the line was written to. -/
  | wrote (stream : Stream) (bytes : Bytes)
  /-- Collected output was passed on before an exit. -/
  | flushed (stream : Stream) (bytes : Bytes)
  | exitHook (code : Int)
  /-- A signal was sent, with success or not. -/
  | sent (signal : Signal) (delivered : Bool)
  /-- A builtin killed the children in the foreground. -/
  | killed (count : Nat)
  /-- A wait was ended by a signal. -/
  | interrupt (signal : Signal) (process : Nat)
  /-- A wait was ended because the line was cancelled. -/
  | cancelled (process : Nat)
  /-- A pipeline ended in a usage failure. -/
  | builtinFailed (failure : Failure)
  /-- A pipeline ended in an interrupt. -/
  | pipelineInterrupted (failure : Failure)
  /-- A line was read as a tree. -/
  | parsed (line dump : Bytes)
  /-- Collected output was passed on after the line. -/
  | delivered (out err : Bytes)
  /-- A failure was reported. -/
  | reported (message : Bytes)
  /-- A line could not be logged. -/
  | auditFailed (e : Audit.LogError)
  deriving DecidableEq, Repr

/-- The shell between two steps. -/
structure Shell (σ : Type) where
  world : σ
  interrupts : Interrupts := .new
  cancelled : Bool := false
  /-- The children that were started and not yet waited for. -/
  foreground : List Nat := []
  /-- The next number for a file, pipe or process. -/
  fresh : Nat := 0
  capturedOut : Bytes := []
  capturedErr : Bytes := []
  journal : List Event := []

namespace Shell

variable {σ : Type}

/-- Adds an event to the journal. -/
def note (e : Event) (s : Shell σ) : Shell σ := { s with journal := s.journal ++ [e] }

/-- A write to a stream of the line. -/
def write (capture : Bool) (stream : Stream) (bytes : Bytes) (s : Shell σ) : Shell σ :=
  if bytes = [] then s
  else
    let s := if capture then
        match stream with
        | .out => { s with capturedOut := s.capturedOut ++ bytes }
        | .err => { s with capturedErr := s.capturedErr ++ bytes }
      else s
    s.note (.wrote stream bytes)

/-- A signal is sent to the interrupt slot. -/
def send (sig : Signal) (s : Shell σ) : Bool × Shell σ :=
  let (delivered, i) := s.interrupts.send sig
  (delivered, { s with interrupts := i }.note (.sent sig delivered))

/-- Something happens outside. -/
def happen (capture : Bool) (s : Shell σ) : Happening → Shell σ
  | .wrote stream bytes => s.write capture stream bytes
  | .sent sig => (s.send sig).2
  | .cancelled => { s with cancelled := true }

/-- Takes in what has happened outside since the last look. -/
def absorb (m : Machine σ) (capture : Bool) (s : Shell σ) : Shell σ :=
  let (hs, w) := m.meanwhile s.world
  hs.foldl (happen capture) { s with world := w }

/-- Kills every child in the foreground. -/
def killForeground (m : Machine σ) (s : Shell σ) : Shell σ :=
  { s with world := s.foreground.foldl (fun w p => m.kill p w) s.world }

/-- A child was waited for. -/
def untrack (process : Nat) (s : Shell σ) : Shell σ :=
  { s with foreground := s.foreground.erase process }.note (.waited process)

/-- Passes on what was collected on one stream. -/
def flushStream (stream : Stream) (s : Shell σ) : Shell σ :=
  match stream with
  | .out => { s with capturedOut := [] }.note (.flushed .out s.capturedOut)
  | .err => { s with capturedErr := [] }.note (.flushed .err s.capturedErr)

/-- Passes on what was collected, on the streams for which that is asked. -/
def flush (set : Settings) (s : Shell σ) : Shell σ :=
  let s := if set.capture && set.flushOut then s.flushStream .out else s
  if set.capture && set.flushErr then s.flushStream .err else s

/-- Closes the shell's reading end of a pipe. -/
def closeReader (m : Machine σ) (pipe : Nat) (s : Shell σ) : Shell σ :=
  { s with world := m.closeReader pipe s.world }.note (.readerClosed pipe)

/-- Closes the shell's writing end of a pipe. -/
def closeWriter (m : Machine σ) (pipe : Nat) (s : Shell σ) : Shell σ :=
  { s with world := m.closeWriter pipe s.world }.note (.writerClosed pipe)

/-- Closes a file of a redirect. -/
def closeFile (m : Machine σ) (file : Nat) (s : Shell σ) : Shell σ :=
  { s with world := m.closeFile file s.world }.note (.closed file)

end Shell

end AuditShell
