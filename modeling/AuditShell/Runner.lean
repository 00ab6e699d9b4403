import AuditShell.Execute.Line
import AuditShell.Tree.Parse
/-!
# Running lines

A line is scanned, parsed, run and recorded in the audit log. The log never changes what the line
does: a line that cannot be logged only leaves an event in the journal. A line that ends the shell
is not logged, because the shell is over before the log is written.
-/
namespace AuditShell

/-- Why a line came to nothing. -/
inductive LineError where
  | unreadable (e : SyntaxError)
  | failed (f : Failure)
  deriving DecidableEq, Repr

/-- The message of a line error. -/
def LineError.message : LineError → Bytes
  | .unreadable e => e.message
  | .failed f => f.message

/-- The code of an exit that came back. -/
def LineError.exitCode? : LineError → Option Int
  | .unreadable _ => none
  | .failed f => f.exitCode?

/-- The status of lines that cannot be read or run. -/
def failureStatus : Int := 2

/-- The status of a line. -/
def lineStatus (result : Option Result) (error : Option LineError) : Int :=
  match error with
  | none => (result.map Result.exitCode).getD 0
  | some e => e.exitCode?.getD failureStatus

/-- How a line ended, as the log says it. -/
inductive Outcome where
  | ok
  | failed
  | interrupted
  | exit
  | error
  deriving DecidableEq, Repr

/-- The word for an outcome. -/
def Outcome.name : Outcome → Bytes
  | .ok => text "ok"
  | .failed => text "failed"
  | .interrupted => text "interrupted"
  | .exit => text "exit"
  | .error => text "error"

/-- The outcome of a line. -/
def lineOutcome (result : Option Result) (error : Option LineError) : Outcome :=
  match error with
  | some e => if e.exitCode?.isSome then .exit else .error
  | none =>
    match result with
    | none => .ok
    | some r => if r.exitCode = 0 then .ok else if r.exitCode = interruptCode then .interrupted else .failed

/-- How failures are shown: plain, or in red with or without a reset behind. -/
inductive Colour where
  | plain
  | red (reset : Bool)
  deriving DecidableEq, Repr

/-- The report of a failure. An exit that came back is not reported. -/
def reportText (colour : Colour) (error : LineError) : Bytes :=
  if error.exitCode?.isSome then []
  else
    let line := text "crsh: " ++ error.message ++ text "\n"
    match colour with
    | .plain => line
    | .red reset => text "\x1b[31m" ++ line ++ (if reset then text "\x1b[0m" else [])

/-- How lines are recorded: where the log is, by which digest it is chained, and the clock. -/
structure Recorder (σ : Type) where
  store : Audit.LogStore σ
  hash : Audit.Hash
  now : σ → Instant

/-- A shell with its log, if it keeps one. -/
structure Session (σ : Type) where
  shell : Shell σ
  logger : Option Audit.Logger := none

/-- How a line ends for its caller. -/
inductive RunEnd where
  | returned (result : Option Result) (error : Option LineError)
  | terminated (code : Int)
  | crashed
  deriving DecidableEq, Repr

section

variable {σ : Type} (m : Machine σ) (set : Settings) (rec : Recorder σ)

/-- The nanoseconds from one point in time to another. -/
def elapsed (start finish : Instant) : Int :=
  (finish.seconds - start.seconds) * 1000000000 + ((finish.nanos : Int) - start.nanos)

/-- What is recorded about a line. -/
def lineRecord (line : Bytes) (commands : Option (List Bytes)) (result : Option Result)
    (error : Option LineError) (nanos : Int) (cwd : Bytes) : Audit.Record where
  line := line
  commands := commands
  outcome := (lineOutcome result error).name
  exitCode := lineStatus result error
  error := error.map LineError.message
  nanos := nanos
  cwd := cwd

/-- Records a line in the log, if there is one. -/
def Session.record (s : Session σ) (r : Audit.Record) : Session σ :=
  match s.logger with
  | none => s
  | some l =>
    match l.log rec.store rec.hash r (rec.now s.shell.world) s.shell.world with
    | (.ok l, w) => { s with shell := { s.shell with world := w }, logger := some l }
    | (.error e, w) => { s with shell := { s.shell with world := w }.note (.auditFailed e) }

/-- Passes collected output on to the caller's streams. -/
def Shell.deliver (s : Shell σ) (result : Option Result) : Shell σ :=
  match result with
  | none => s
  | some r => s.note (.delivered r.stdout r.stderr)

/-- Runs one line. A blank line does nothing. -/
def runLine (line : Bytes) (s : Session σ) : RunEnd × Session σ :=
  let cwd := m.cwd s.shell.world
  let start := rec.now s.shell.world
  let finish (s : Session σ) (commands : Option (List Bytes)) (result : Option Result)
      (error : Option LineError) : RunEnd × Session σ :=
    (.returned result error,
      s.record rec (lineRecord line commands result error (elapsed start (rec.now s.shell.world)) cwd))
  match Token.scan line with
  | .error e => finish s none none (some (.unreadable (.scan e)))
  | .ok tokens =>
    if Token.isEmptyLine tokens then (.returned none none, s)
    else
      match Tree.ofTokens tokens with
      | .error e => finish s none none (some (.unreadable (.parse e)))
      | .ok tree =>
        match execute m set (.ofTree tree) (s.shell.note (.parsed line tree.dump)) with
        | (.terminated code, shell) => (.terminated code, { s with shell })
        | (.crashed, shell) => (.crashed, { s with shell })
        | (.returned result failure, shell) =>
          finish { s with shell := shell.deliver result } (some tree.names) result (failure.map .failed)

/-- Reports the failure of a line. -/
def Session.report (colour : Colour) (error : Option LineError) (s : Session σ) : Session σ :=
  match error with
  | none => s
  | some e =>
    let t := reportText colour e
    if t = [] then s else { s with shell := s.shell.note (.reported t) }

end

end AuditShell
