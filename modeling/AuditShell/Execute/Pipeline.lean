import AuditShell.Execute.Shell
import AuditShell.Tree.Draft
/-!
# Running a pipeline

The stages of a pipeline are started from left to right, joined by pipes, and then waited for in the
same order. A builtin produces no stream, so the stage after it reads what the shell reads. Whatever
way the pipeline ends, every child is waited for and every file and pipe end is closed, unless the
shell itself ends.
-/
namespace AuditShell

variable {σ : Type} (m : Machine σ) (set : Settings)

/-! ## Builtins -/

/-- How a builtin ends: it comes back, or the shell has ended. -/
inductive ActionEnd where
  | returned (failure : Option Failure)
  | terminated (code : Int)
  deriving DecidableEq, Repr

/-- Carries out what a builtin does. -/
def runAction : Action → Shell σ → ActionEnd × Shell σ
  | .finish f, s => (.returned f, s)
  | .complain b k, s => runAction k ((s.absorb m set.capture).write set.capture .err b)
  | .exit code k, s =>
    let s := ((s.absorb m set.capture).flush set).note (.exitHook code)
    match set.hook with
    | .returns => runAction k s
    | .terminates => (.terminated code, s)
  | .changeDir path k, s =>
    let (e, w) := m.chdir path s.world
    runAction (k e) { s with world := w }
  | .send sig k, s =>
    let (delivered, s) := (s.absorb m set.capture).send sig
    runAction (k delivered) s
  | .killAll k, s =>
    let n := s.foreground.length
    runAction (k n) ((s.killForeground m).note (.killed n))
  | .cancel k, s => runAction k { s with cancelled := true }

/-! ## Redirects -/

/-- The files that the redirects of a command opened. -/
structure Opened where
  input : Option Nat := none
  output : Option Nat := none
  deriving DecidableEq, Repr

/-- The files in the order in which they were opened. -/
def Opened.files (o : Opened) : List Nat := o.input.toList ++ o.output.toList

/-- The failure of a redirect. -/
def redirectFailure (r : Redirect) (e : OsError) : Failure :=
  .runtime (text "redirect " ++ r.render) (.os e)

/-- Opens the file of an output redirect after that of an input redirect. -/
def openOutput (input : Option Nat) : Option Redirect → Shell σ → Except Failure Opened × Shell σ
  | none, s => (.ok ⟨input, none⟩, s)
  | some r, s =>
    let file := s.fresh
    match m.openWrite file (r.kind = .append) r.path s.world with
    | (none, w) => (.ok ⟨input, some file⟩, { s with world := w, fresh := file + 1 }.note (.opened file r))
    | (some e, w) =>
      let s := { s with world := w, fresh := file + 1 }
      (.error (redirectFailure r e), match input with
        | some f => s.closeFile m f
        | none => s)

/-- Opens the files of a command's redirects: of each direction the last one, input first, and none
where a redirect has no known kind. -/
def openRedirects (c : Command) (s : Shell σ) : Except Failure Opened × Shell σ :=
  match c.redirects.find? fun r => !r.kind.isKnown with
  | some r => (.error (.runtime (text "redirect") (.malformedRedirect r)), s)
  | none =>
    match c.input? with
    | none => openOutput m none c.output? s
    | some r =>
      let file := s.fresh
      match m.openRead file r.path s.world with
      | (some e, w) => (.error (redirectFailure r e), { s with world := w, fresh := file + 1 })
      | (none, w) =>
        openOutput m (some file) c.output? ({ s with world := w, fresh := file + 1 }.note (.opened file r))

/-! ## Stages -/

/-- What a pipeline holds while its stages are being started. -/
structure Plumbing where
  /-- The processes started so far, in order. -/
  processes : List Nat := []
  /-- The files opened so far, in order. -/
  files : List Nat := []
  /-- The pipe that the next stage reads. -/
  reader : Option Nat := none
  deriving DecidableEq, Repr

/-- How starting a stage ends. -/
inductive StageEnd where
  | started
  | failed (f : Failure)
  | terminated (code : Int)
  deriving DecidableEq, Repr

/-- Starts a process for a command. -/
def spawnStage (c : Command) (stdin : Source) (stdout : Sink) (files : List Nat) (p : Plumbing)
    (s : Shell σ) : StageEnd × Plumbing × Shell σ :=
  let p := { p with files := p.files ++ files }
  let process := s.fresh
  let launch : Launch := ⟨c.words, stdin, stdout, .err⟩
  match m.spawn process launch s.world with
  | (some e, w) =>
    (.failed (.runtime (text "spawn " ++ c.name) (.os e)), p, { s with world := w, fresh := process + 1 })
  | (none, w) =>
    (.started, { p with processes := p.processes ++ [process] },
      { s with world := w, fresh := process + 1, foreground := s.foreground ++ [process] }.note
        (.spawned process launch))

/-- Opens the redirects of a command and runs it as a builtin or starts a process for it. -/
def startCommand (c : Command) (stdin : Source) (stdout : Sink) (p : Plumbing) (s : Shell σ) :
    StageEnd × Plumbing × Shell σ :=
  match openRedirects m c s with
  | (.error f, s) => (.failed f, p, s)
  | (.ok o, s) =>
    match set.registry.lookup c.name with
    | some b =>
      let p := { p with files := p.files ++ o.files }
      match runAction m set (b.run c.args) (s.note (.builtin c.name c.args)) with
      | (.returned none, s) => (.started, p, s)
      | (.returned (some f), s) => (.failed f, p, s)
      | (.terminated code, s) => (.terminated code, p, s)
    | none =>
      spawnStage m c ((o.input.map Source.file).getD stdin) ((o.output.map Sink.file).getD stdout) o.files p s

/-- Closes the shell's ends of the pipes that a stage has taken over. -/
def handOver (writer : Option Nat) (p : Plumbing) (s : Shell σ) : Plumbing × Shell σ :=
  let s := match writer with
    | some q => s.closeWriter m q
    | none => s
  let s := match p.reader with
    | some q => s.closeReader m q
    | none => s
  ({ p with reader := writer }, s)

/-- Starts a command that has words. A stage that is neither the last one nor a builtin writes to a
new pipe. -/
def startStage (last : Bool) (c : Command) (p : Plumbing) (s : Shell σ) : StageEnd × Plumbing × Shell σ :=
  let stdin := (p.reader.map Source.pipe).getD .shell
  if last || (set.registry.lookup c.name).isSome then
    match startCommand m set c stdin .line p s with
    | (.terminated code, p, s) => (.terminated code, p, s)
    | (e, p, s) =>
      let (p, s) := handOver m none p s
      (e, p, s)
  else
    let pipe := s.fresh
    match m.makePipe pipe s.world with
    | (some e, w) => (.failed (.runtime (text "pipe") (.os e)), p, { s with world := w, fresh := pipe + 1 })
    | (none, w) =>
      match startCommand m set c stdin (.pipe pipe) p ({ s with world := w, fresh := pipe + 1 }.note (.piped pipe)) with
      | (.terminated code, p, s) => (.terminated code, p, s)
      | (e, p, s) =>
        let (p, s) := handOver m (some pipe) p s
        (e, p, s)

/-- Starts the stages of a pipeline from left to right, up to the first that fails. -/
def startStages : Stages → Plumbing → Shell σ → StageEnd × Plumbing × Shell σ
  | [], p, s => (.started, p, s)
  | c :: cs, p, s =>
    match c with
    | none => (.failed (.runtime (text "command") .emptyCommand), p, s)
    | some c =>
      if c.words = [] then (.failed (.runtime (text "command") .emptyCommand), p, s)
      else
        match startStage m set cs.isEmpty c p s with
        | (.started, p, s) => startStages cs p s
        | r => r

/-! ## Waiting -/

/-- Kills children that will not be waited for in the normal way, and waits for them. -/
def reapAll : List Nat → Shell σ → Shell σ
  | [], s => s
  | p :: ps, s =>
    let (_, w) := m.reap p (m.kill p s.world)
    reapAll ps ((({ s with world := w }.absorb m set.capture)).untrack p)

/-- The end of a process, or the failure of waiting for it. -/
def waitResult : Except OsError Ended → Except Failure Ended
  | .ok e => .ok e
  | .error e => .error (.runtime (text "wait") (.os e))

/-- Kills the foreground and waits for one process. -/
def killAndReap (process : Nat) (s : Shell σ) : Shell σ :=
  let s := s.killForeground m
  let (_, w) := m.reap process s.world
  ({ s with world := w }.absorb m set.capture).untrack process

/-- Waits until a process ends, a signal arrives or the line is cancelled. A process that had ended
when the signal was taken has ended normally, and the signal is put back for what still runs. -/
def await (process : Nat) (s : Shell σ) : Except Failure Ended × Shell σ :=
  let s := s.absorb m set.capture
  let (wake, w) := m.wake process s.interrupts.pending? s.cancelled s.world
  let s := { s with world := w }
  match wake.view with
  | .exit r => (waitResult r, (s.absorb m set.capture).untrack process)
  | .signal sig raced =>
    let s := { s with interrupts := s.interrupts.receive.2 }.absorb m set.capture
    match raced with
    | some r => (waitResult r, ((s.untrack process).send sig).2)
    | none =>
      (.error (.interrupted (some sig)), killAndReap m set process (s.note (.interrupt sig process)))
  | .cancel =>
    (.error (.runtime (text "wait") .cancelled), killAndReap m set process (s.note (.cancelled process)))

/-- Waits for processes in order and gives the end of the last one. After a failure the others are
killed. -/
def awaitAll : List Nat → Option Ended → Shell σ → Except Failure (Option Ended) × Shell σ
  | [], last, s => (.ok last, s)
  | p :: ps, _, s =>
    match await m set p s with
    | (.ok e, s) => awaitAll ps (some e) s
    | (.error f, s) => (.error f, reapAll m set ps s)

/-! ## Pipelines -/

/-- Closes what is still open when a pipeline ends. -/
def closeAll (p : Plumbing) (s : Shell σ) : Shell σ :=
  let s := match p.reader with
    | some q => s.closeReader m q
    | none => s
  p.files.foldl (fun s f => s.closeFile m f) s

/-- How a pipeline ends. -/
inductive PipelineEnd where
  | code (n : Int)
  | failed (f : Failure)
  /-- The shell has ended. -/
  | terminated (code : Int)
  /-- A command is missing where the pipeline is to be written down. -/
  | crashed
  deriving DecidableEq, Repr

/-- Runs a pipeline with at least one stage. -/
def runStages (cs : Stages) (s : Shell σ) : PipelineEnd × Shell σ :=
  match startStages m set cs {} s with
  | (.terminated code, _, s) => (.terminated code, s)
  | (.failed f, p, s) => (.failed f, closeAll m p (reapAll m set p.processes s))
  | (.started, p, s) =>
    match awaitAll m set p.processes none s with
    | (.error f, s) => (.failed f, closeAll m p s)
    | (.ok last, s) => (.code ((last.map Ended.status).getD 0), closeAll m p s)

/-- Runs a pipeline, which may be missing. -/
def runPipeline (p : Option Stages) (s : Shell σ) : PipelineEnd × Shell σ :=
  match p with
  | none => (.failed (.runtime (text "pipeline") .emptyPipeline), s)
  | some [] => (.failed (.runtime (text "pipeline") .emptyPipeline), s)
  | some (c :: cs) =>
    match Stages.pipeline? (c :: cs) with
    | none => (.crashed, s)
    | some pipeline => runStages m set (c :: cs) (s.note (.pipeline (Pipeline.render pipeline)))

end AuditShell
