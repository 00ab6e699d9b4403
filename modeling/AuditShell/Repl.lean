import AuditShell.Prompt.Prompter
import AuditShell.Runner
/-!
# The line loop

Reads lines from an input that is not a terminal and runs them until one exits. The end of the
input counts as a line `exit`.
-/
namespace AuditShell

/-- The loop between two lines. -/
structure Repl (σ : Type) where
  session : Session σ
  /-- The status of the last line that was not blank. -/
  status : Int := 0
  /-- Whether a failure of the prompt has been reported. -/
  promptFailed : Bool := false

/-- How the handling of a line ends. -/
inductive HandleEnd where
  /-- The loop goes on. -/
  | next (status : Int)
  /-- The line exits the loop. -/
  | done (code : Int)
  | terminated (code : Int)
  | crashed
  deriving DecidableEq, Repr

/-- How many bytes an input line may not reach. -/
def lineLimit : Nat := 65536

/-- A line without the carriage return at its end. -/
def dropReturn (line : Bytes) : Bytes := if line.getLast? = some 0x0D then line.dropLast else line

/-- The lines among pieces of an input, up to one that is too long, and whether there is one. The
last piece has no newline behind it and is no line where it is empty. -/
def linesOfPieces : List Bytes → List Bytes × Bool
  | [] => ([], false)
  | p :: ps =>
    if lineLimit ≤ p.length then ([], true)
    else if ps.isEmpty && p.isEmpty then ([], false)
    else
      let (ls, long) := linesOfPieces ps
      (dropReturn p :: ls, long)

/-- The lines of an input, up to one that is too long, and whether there is one. -/
def inputLines (input : Bytes) : List Bytes × Bool := linesOfPieces (input.splitOn 0x0A)

/-- The line that the end of the input stands for. -/
def endLine : Bytes := text "exit"

/-- The failure of an input line that is too long. -/
def lineTooLong : LineError := .failed (.other (text "read input: bufio.Scanner: token too long"))

namespace Repl

variable {σ : Type} (m : Machine σ) (set : Settings) (rec : Recorder σ) (colour : Colour)

/-- Runs a line, reports its failure and keeps its status. -/
def handle (line : Bytes) (r : Repl σ) : HandleEnd × Repl σ :=
  match runLine m set rec line r.session with
  | (.terminated code, s) => (.terminated code, { r with session := s })
  | (.crashed, s) => (.crashed, { r with session := s })
  | (.returned result error, s) =>
    let s := s.report colour error
    match error.bind LineError.exitCode? with
    | some n => (.done n, { r with session := s })
    | none =>
      let status := if result.isSome || error.isSome then lineStatus result error else r.status
      (.next status, { r with session := s, status })

/-- Runs lines until one exits. -/
def handleAll : List Bytes → Repl σ → HandleEnd × Repl σ
  | [], r => (.next r.status, r)
  | l :: ls, r =>
    match handle m set rec colour l r with
    | (.next _, r) => handleAll ls r
    | e => e

/-- How the loop ends. -/
inductive End where
  | code (n : Int)
  | terminated (code : Int)
  | crashed
  deriving DecidableEq, Repr

/-- The end of the loop after its last line. -/
def HandleEnd.toEnd : HandleEnd → End
  | .next n => .code n
  | .done n => .code n
  | .terminated n => .terminated n
  | .crashed => .crashed

/-- Runs the loop over a whole input. -/
def run (input : Bytes) (r : Repl σ) : End × Repl σ :=
  let (lines, long) := inputLines input
  match handleAll m set rec colour lines r with
  | (.next _, r) =>
    if long then (.code failureStatus, { r with session := r.session.report colour (some lineTooLong) })
    else
      let (e, r) := handle m set rec colour endLine r
      (HandleEnd.toEnd e, r)
  | (e, r) => (HandleEnd.toEnd e, r)

/-- The prompt where nothing gives another. -/
def defaultPrompt : Bytes := text "> "

/-- The prompt before the next line. The first failure of its script is reported. -/
def prompt (prompter : Option Prompt.Prompter) (vars : Prompt.Vars) (r : Repl σ) : Bytes × Repl σ :=
  match prompter with
  | none => (defaultPrompt, r)
  | some p =>
    let v := { vars with cwd := m.cwd r.session.shell.world, status := r.status }
    match p.render v with
    | (t, none) => (t, r)
    | (t, some e) =>
      if r.promptFailed then (t, r)
      else
        (t, { r with
          promptFailed := true
          session := r.session.report colour (some (.failed (.other e.message))) })

end Repl

end AuditShell
