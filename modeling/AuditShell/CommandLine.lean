import AuditShell.CommandLine.Request
import AuditShell.Config
import AuditShell.DebugLog
import AuditShell.Repl
import AuditShell.ToolServer
/-!
# The command line

A run of the program from its arguments to its exit status. Everything that a run shows is read off
the journal of its shell: what the lines wrote, what was reported, and the debug log if it is asked
for.
-/
namespace AuditShell.CommandLine

/-- Where the program runs: a machine, how lines are recorded there, and what it gives to a run. -/
structure Host (σ : Type) where
  machine : Machine σ
  recorder : Recorder σ
  readFile : Bytes → σ → Except OsError Bytes
  /-- Takes all of the standard input. -/
  takeInput : σ → Bytes × σ
  home : Bytes
  user : Bytes
  hostName : Bytes

/-- What a run leaves. -/
structure Outcome (σ : Type) where
  code : Nat
  stdout : Bytes := []
  stderr : Bytes := []
  world : σ

/-- The exit status of a code: its last eight bits. -/
def exitStatus (code : Int) : Nat := (code % 256).toNat

/-! ## What is shown -/

/-- What an event shows on standard output. -/
def shownOut (capture : Bool) : Event → Bytes
  | .wrote .out b => if capture then [] else b
  | .flushed .out b => b
  | .delivered o _ => o
  | _ => []

/-- What an event shows on standard error. -/
def shownErr (capture debug : Bool) (e : Event) : Bytes :=
  match e with
  | .wrote .err b => if capture then [] else b
  | .flushed .err b => b
  | .delivered _ b => b
  | .reported b => b
  | e => if debug then (DebugLog.ofEvent e).getD [] else []

/-! ## Runs -/

/-- What a run knows once its configuration is read. -/
structure Setup where
  config : Config
  debug : Bool

/-- How failures are shown. Nothing is a terminal here, so that colour must be asked for. -/
def Setup.colour (u : Setup) : Colour := if u.config.color = text "always" then .red true else .plain

/-- The settings for lines that a user types. Exiting ends the program. -/
def Setup.settings (u : Setup) : Settings :=
  let capture := u.config.captureOutput
  { capture, flushOut := capture, flushErr := capture, hook := .terminates }

variable {σ : Type} (h : Host σ)

/-- A session with the log that the configuration asks for. A log that cannot be used is reported,
and the session goes without. -/
def openSession (u : Setup) (interrupts : Interrupts) (w : σ) : Bytes × Session σ :=
  if u.config.audit.enabled then
    match Audit.Logger.new h.recorder.store h.recorder.hash u.config.audit.path w with
    | (.ok l, w) => ([], { shell := { world := w, interrupts }, logger := some l })
    | (.error e, w) =>
      (text "crsh: audit: " ++ e.message ++ text "\n", { shell := { world := w, interrupts } })
  else ([], { shell := { world := w, interrupts } })

/-- The outcome of a run whose session is over. -/
def finish (u : Setup) (banner : Bytes) (code : Int) (s : Session σ) : Outcome σ :=
  let capture := u.config.captureOutput
  { code := exitStatus code
    stdout := s.shell.journal.flatMap (shownOut capture)
    stderr := banner ++ s.shell.journal.flatMap (shownErr capture u.debug)
    world := s.shell.world }

/-- Runs one line. -/
def runOnce (u : Setup) (line : Bytes) (w : σ) : Outcome σ :=
  let (banner, s) := openSession h u .new w
  match runLine h.machine u.settings h.recorder line s with
  | (.returned result error, s) => finish u banner (lineStatus result error) (s.report u.colour error)
  | (.terminated code, s) => finish u banner code s
  | (.crashed, s) => finish u banner failureStatus s

/-- What the script of the prompt prints, and what is reported about it. -/
def scriptReport (u : Setup) (w : σ) : Bytes :=
  let path := u.config.promptScript
  if path = [] then []
  else
    match Prompt.PromptScript.load path h.user h.hostName (h.readFile path w) with
    | (.ok _, printed) => printed
    | (.error e, printed) => printed ++ text "crsh: " ++ e.message ++ text "\n"

/-- Runs the lines of the input. -/
def runInput (u : Setup) (w : σ) : Outcome σ :=
  let report := scriptReport h u w
  let (banner, s) := openSession h u .new w
  let (input, w) := h.takeInput s.shell.world
  let start : Repl σ := { session := { s with shell := { s.shell with world := w } } }
  match Repl.run h.machine u.settings h.recorder u.colour input start with
  | (.code n, r) => finish u (report ++ banner) n r.session
  | (.terminated n, r) => finish u (report ++ banner) n r.session
  | (.crashed, r) => finish u (report ++ banner) failureStatus r.session

/-- Handles messages in order and gives the answers. -/
def serveAll (set : Settings) : List Bytes → Session σ → Bytes × Session σ
  | [], s => ([], s)
  | l :: ls, s =>
    match ToolServer.handle h.machine set h.recorder l s with
    | (.answered a, s) =>
      let (out, s) := serveAll set ls s
      ((a.map fun v => v.compact ++ text "\n").getD [] ++ out, s)
    | (_, s) => ([], s)

/-- Serves the shell as a tool until the input ends. Lines write only into the answers. -/
def serve (u : Setup) (w : σ) : Outcome σ :=
  let (banner, s) := openSession h u .missing w
  let (input, w) := h.takeInput s.shell.world
  let messages := (input.splitOn 0x0A).filter (· ≠ [])
  let (out, s) := serveAll h { capture := true } messages { s with shell := { s.shell with world := w } }
  { code := 0
    stdout := out
    stderr := banner ++ s.shell.journal.flatMap fun e => if u.debug then (DebugLog.ofEvent e).getD [] else []
    world := s.shell.world }

/-- Carries out a request. -/
def perform (u : Setup) (r : Request) (w : σ) : Outcome σ :=
  let report (x : Int × Bytes) : Outcome σ := { code := exitStatus x.1, stdout := x.2, world := w }
  match r.command with
  | .shell =>
    match r.options.line with
    | some line => runOnce h u line w
    | none => runInput h u w
  | .verify => report (Audit.Log.verifyReport h.recorder.store h.recorder.hash u.config.audit.path w)
  | .tail => report (Audit.Log.tailReport h.recorder.store u.config.audit.path r.options.lines w)
  | .serve => serve h u w
  | .audit => { code := 0, world := w }

/-- The outcome of a run that fails before it starts. -/
def refuse (message : Bytes) (w : σ) : Outcome σ :=
  { code := 1, stderr := text "Error: " ++ message ++ text "\n", world := w }

/-- Where a request finds its configuration. -/
def Request.configPath (home : Bytes) (r : Request) : Bytes := r.options.config.getD (Config.standardPath home)

/-- Where the program finds its configuration. -/
def configPath (home : Bytes) (args : List Bytes) : Bytes :=
  match Request.parse args with
  | .ok r => r.configPath home
  | .error _ => Config.standardPath home

/-- Runs the program. -/
def run (args : List Bytes) (w : σ) : Outcome σ :=
  match Request.parse args with
  | .error e => refuse e.message w
  | .ok r =>
    if r.options.version then
      { code := 0, stdout := text "crsh version " ++ ToolServer.serverVersion ++ text "\n", world := w }
    else
      let path := r.configPath h.home
      match Config.load h.home path (h.readFile path w) with
      | .error e => refuse (text "config: " ++ e.message) w
      | .ok config => perform h ⟨config, r.options.debug || config.debug⟩ r w

end AuditShell.CommandLine
