import AuditShell.Execute.Pipeline
/-!
# Running a tree

The pipelines of a tree run one after another. A usage failure and an interrupt become the codes 1
and 130 of their pipeline; any other failure ends the line.
-/
namespace AuditShell

variable {σ : Type} (m : Machine σ) (set : Settings)

/-- The code of a pipeline that a builtin's usage failure ended. -/
def usageCode : Int := 1

/-- The code of a pipeline that an interrupt ended. -/
def interruptCode : Int := 130

/-- The code that stands for a failure which does not end the line, with the event that is noted. A
usage failure comes before an interrupt where both are in the failure. -/
def recoverable (f : Failure) : Option (Int × Event) :=
  if f.chain.any Failure.isUsage then some (usageCode, .builtinFailed f)
  else if f.chain.any Failure.isInterrupted then some (interruptCode, .pipelineInterrupted f)
  else none

/-- Runs pipelines in order. `code` is the code of the one before. -/
def runSequence : List (Option Stages) → (code : Int) → Shell σ → PipelineEnd × Shell σ
  | [], code, s => (.code code, s)
  | p :: ps, _, s =>
    match runPipeline m set p s with
    | (.code n, s) => runSequence ps n s
    | (.failed f, s) =>
      match recoverable f with
      | some (n, e) => runSequence ps n (s.note e)
      | none => (.failed f, s)
    | r => r

/-- What a line leaves: its collected output and its code. -/
structure Result where
  stdout : Bytes := []
  stderr : Bytes := []
  exitCode : Int := 0
  deriving DecidableEq, Repr

/-- How a line ends. -/
inductive LineEnd where
  | returned (result : Option Result) (failure : Option Failure)
  /-- The shell has ended. -/
  | terminated (code : Int)
  | crashed
  deriving DecidableEq, Repr

/-- The pipelines of a draft, or why it cannot run. -/
def Draft.pipelines : Draft → Except RuntimeCause (List (Option Stages))
  | .missing => .error .unexpectedRoot
  | .noPipeline => .error .emptyPipeline
  | .noSequence => .error .nilSequence
  | .pipeline p => .ok [some p]
  | .sequence ps => .ok ps

/-- The result with what was collected. -/
def Shell.result (s : Shell σ) (code : Int) : Result := ⟨s.capturedOut, s.capturedErr, code⟩

/-- Drops the signals that are left from earlier lines. -/
def Shell.dropStale (s : Shell σ) : Shell σ :=
  let (n, i) := s.interrupts.drain
  let s := { s with interrupts := i }
  if n = 0 then s else s.note (.dropped n)

/-- Runs a tree. -/
def execute (d : Draft) (s : Shell σ) : LineEnd × Shell σ :=
  let s := (s.absorb m set.capture).dropStale
  match d.pipelines with
  | .error c => (.returned none (some (.runtime (text "execute") c)), s)
  | .ok ps =>
    match runSequence m set ps 0 { s with capturedOut := [], capturedErr := [] } with
    | (.code n, s) => (.returned (some (s.result n)) none, s)
    | (.failed f, s) => (.returned (some (s.result 0)) (some f), s)
    | (.terminated code, s) => (.terminated code, s)
    | (.crashed, s) => (.crashed, s)

end AuditShell
