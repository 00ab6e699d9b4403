import AuditShell.Execute.Line
/-!
# Maps between machines

A map between the worlds of two machines that carries every request of the one to the same request of
the other (`Machine.Hom`) carries whole runs: the shell ends in the same way, and in the image of the
state (`runPipeline_map`, `execute_map`). So a machine can be watched. Something is kept beside its world
that notes the requests, and a run on the watched machine says about the run on the machine itself what
was noted.

The same holds of a whole view of the shell (`Shell.Hom`), which maps what was collected and the journal
too: a run that is looked at through the view is the run on what is seen (`runSequence_view`). So two ways
to collect output can be compared, and two journals that only begin differently.
-/

namespace AuditShell

variable {σ τ : Type}

/-- Each request in one world is the same request in the image of the world. -/
structure Machine.Hom (m : Machine σ) (n : Machine τ) (f : σ → τ) : Prop where
  openRead : ∀ file path w, n.openRead file path (f w) = Prod.map id f (m.openRead file path w)
  openWrite : ∀ file append path w, n.openWrite file append path (f w) = Prod.map id f (m.openWrite file append path w)
  closeFile : ∀ file w, n.closeFile file (f w) = f (m.closeFile file w)
  makePipe : ∀ pipe w, n.makePipe pipe (f w) = Prod.map id f (m.makePipe pipe w)
  closeReader : ∀ pipe w, n.closeReader pipe (f w) = f (m.closeReader pipe w)
  closeWriter : ∀ pipe w, n.closeWriter pipe (f w) = f (m.closeWriter pipe w)
  spawn : ∀ process launch w, n.spawn process launch (f w) = Prod.map id f (m.spawn process launch w)
  kill : ∀ process w, n.kill process (f w) = f (m.kill process w)
  reap : ∀ process w, n.reap process (f w) = Prod.map id f (m.reap process w)
  wake : ∀ process pending cancelled w,
    n.wake process pending cancelled (f w) = Prod.map id f (m.wake process pending cancelled w)
  chdir : ∀ path w, n.chdir path (f w) = Prod.map id f (m.chdir path w)
  cwd : ∀ w, n.cwd (f w) = m.cwd w
  meanwhile : ∀ w, n.meanwhile (f w) = Prod.map id f (m.meanwhile w)

theorem Machine.hom_id (m : Machine σ) : m.Hom m id where
  openRead _ _ _ := rfl
  openWrite _ _ _ _ := rfl
  closeFile _ _ := rfl
  makePipe _ _ := rfl
  closeReader _ _ := rfl
  closeWriter _ _ := rfl
  spawn _ _ _ := rfl
  kill _ _ := rfl
  reap _ _ := rfl
  wake _ _ _ _ := rfl
  chdir _ _ := rfl
  cwd _ := rfl
  meanwhile _ := rfl

/-- Whether an event says that collected output was passed on before an exit. -/
def Event.isFlushed : Event → Bool
  | .flushed _ _ => true
  | _ => false

namespace Shell

/-- The shell seen through maps of its world, of what was collected on a stream, and of its journal. -/
def view (f : σ → τ) (a : Bytes → Bytes) (j : List Event → List Event) (s : Shell σ) : Shell τ where
  world := f s.world
  interrupts := s.interrupts
  cancelled := s.cancelled
  foreground := s.foreground
  fresh := s.fresh
  capturedOut := a s.capturedOut
  capturedErr := a s.capturedErr
  journal := j s.journal

/-- The shell in the image of its world. -/
abbrev map (f : σ → τ) (s : Shell σ) : Shell τ := s.view f id id

section

variable (f : σ → τ) (a : Bytes → Bytes) (j : List Event → List Event) (s : Shell σ)

@[simp] theorem view_world : (s.view f a j).world = f s.world := rfl

@[simp] theorem view_interrupts : (s.view f a j).interrupts = s.interrupts := rfl

@[simp] theorem view_cancelled : (s.view f a j).cancelled = s.cancelled := rfl

@[simp] theorem view_foreground : (s.view f a j).foreground = s.foreground := rfl

@[simp] theorem view_fresh : (s.view f a j).fresh = s.fresh := rfl

end

/-- A view under which each step on one machine is the same step on the other. The settings may differ in
how output is collected, and what is passed on before an exit need not be seen. -/
structure Hom (m : Machine σ) (n : Machine τ) (set set' : Settings) (f : σ → τ) (a : Bytes → Bytes)
    (j : List Event → List Event) : Prop where
  machine : m.Hom n f
  registry : set'.registry = set.registry
  hook : set'.hook = set.hook
  journal : ∀ es e, e.isFlushed = false → j (es ++ [e]) = j es ++ [e]
  write : ∀ s stream bytes,
    (view f a j s).write set'.capture stream bytes = (s.write set.capture stream bytes).view f a j
  flush : ∀ s, (view f a j s).flush set' = (s.flush set).view f a j

/-- A map of machines changes neither what is collected nor the journal. -/
theorem hom_map {m : Machine σ} {n : Machine τ} {f : σ → τ} (h : m.Hom n f) (set : Settings) :
    Hom m n set set f id id where
  machine := h
  registry := rfl
  hook := rfl
  journal _ _ _ := rfl
  write s stream bytes := by
    unfold write
    split
    · rfl
    · cases set.capture <;> cases stream <;> rfl
  flush s := by
    unfold flush
    cases set.capture && set.flushOut <;> cases set.capture && set.flushErr <;> rfl

section

variable {f : σ → τ} {a : Bytes → Bytes} {j : List Event → List Event} {m : Machine σ} {n : Machine τ}
  {set set' : Settings} (h : Hom m n set set' f a j) (s : Shell σ)

include h

theorem note_view (e : Event) (he : e.isFlushed = false) :
    (s.view f a j).note e = (s.note e).view f a j := by
  unfold note view
  rw [h.journal _ _ he]

theorem untrack_view (process : Nat) : (s.view f a j).untrack process = (s.untrack process).view f a j :=
  note_view h { s with foreground := s.foreground.erase process } _ rfl

theorem send_view (sig : Signal) : (s.view f a j).send sig = Prod.map id (view f a j) (s.send sig) :=
  Prod.ext rfl (note_view h { s with interrupts := (s.interrupts.send sig).2 } _ rfl)

theorem happen_view (x : Happening) :
    happen set'.capture (s.view f a j) x = (happen set.capture s x).view f a j := by
  cases x with
  | wrote stream bytes => exact h.write s stream bytes
  | sent sig => exact congrArg Prod.snd (send_view h s sig)
  | cancelled => rfl

theorem absorb_view : (s.view f a j).absorb n set'.capture = (s.absorb m set.capture).view f a j := by
  unfold absorb
  rw [view_world, h.machine.meanwhile]
  obtain ⟨hs, w⟩ := m.meanwhile s.world
  change hs.foldl (happen set'.capture) ({ s with world := w }.view f a j) =
    (hs.foldl (happen set.capture) { s with world := w }).view f a j
  generalize ({ s with world := w } : Shell σ) = s
  induction hs generalizing s with
  | nil => rfl
  | cons x hs ih => rw [List.foldl_cons, List.foldl_cons, happen_view h, ih]

theorem killForeground_view : (s.view f a j).killForeground n = (s.killForeground m).view f a j := by
  have hfold (ps : List Nat) (w : σ) :
      ps.foldl (fun w p => n.kill p w) (f w) = f (ps.foldl (fun w p => m.kill p w) w) := by
    induction ps generalizing w with
    | nil => rfl
    | cons p ps ih => rw [List.foldl_cons, List.foldl_cons, h.machine.kill, ih]
  unfold killForeground
  rw [view_world, view_foreground, hfold]
  rfl

theorem closeReader_view (pipe : Nat) :
    (s.view f a j).closeReader n pipe = (s.closeReader m pipe).view f a j := by
  unfold closeReader
  rw [view_world, h.machine.closeReader]
  exact note_view h { s with world := m.closeReader pipe s.world } _ rfl

theorem closeWriter_view (pipe : Nat) :
    (s.view f a j).closeWriter n pipe = (s.closeWriter m pipe).view f a j := by
  unfold closeWriter
  rw [view_world, h.machine.closeWriter]
  exact note_view h { s with world := m.closeWriter pipe s.world } _ rfl

theorem closeFile_view (file : Nat) : (s.view f a j).closeFile n file = (s.closeFile m file).view f a j := by
  unfold closeFile
  rw [view_world, h.machine.closeFile]
  exact note_view h { s with world := m.closeFile file s.world } _ rfl

end

end Shell

/-! ## Steps of a pipeline -/

/-- Hands pipe ends over after a command was started, unless the shell has ended. -/
def passOn (m : Machine σ) (writer : Option Nat) : StageEnd × Plumbing × Shell σ → StageEnd × Plumbing × Shell σ
  | (.terminated code, p, s) => (.terminated code, p, s)
  | (e, p, s) => (e, handOver m writer p s)

theorem startStage_eq (m : Machine σ) (set : Settings) (last : Bool) (c : Command) (p : Plumbing) (s : Shell σ) :
    startStage m set last c p s =
      if last || (set.registry.lookup c.name).isSome then
        passOn m none (startCommand m set c ((p.reader.map Source.pipe).getD .shell) .line p s)
      else
        match m.makePipe s.fresh s.world with
        | (some e, w) =>
          (.failed (.runtime (text "pipe") (.os e)), p, { s with world := w, fresh := s.fresh + 1 })
        | (none, w) =>
          passOn m (some s.fresh) (startCommand m set c ((p.reader.map Source.pipe).getD .shell) (.pipe s.fresh) p
            ({ s with world := w, fresh := s.fresh + 1 }.note (.piped s.fresh))) := by
  unfold startStage
  dsimp only
  split
  · rcases startCommand m set c ((p.reader.map Source.pipe).getD .shell) .line p s with ⟨_ | _ | _, p', s'⟩ <;> rfl
  · rcases m.makePipe s.fresh s.world with ⟨_ | e, w⟩
    · dsimp only
      generalize startCommand m set c _ (.pipe s.fresh) p _ = r
      rcases r with ⟨_ | _ | _, p', s'⟩ <;> rfl
    · rfl

/-- What becomes of a wait for a process after its end. -/
def afterWake (m : Machine σ) (set : Settings) (process : Nat) (view : WakeView) (s : Shell σ) :
    Except Failure Ended × Shell σ :=
  match view with
  | .exit r => (waitResult r, (s.absorb m set.capture).untrack process)
  | .signal sig raced =>
    let s := { s with interrupts := s.interrupts.receive.2 }.absorb m set.capture
    match raced with
    | some r => (waitResult r, ((s.untrack process).send sig).2)
    | none =>
      (.error (.interrupted (some sig)), killAndReap m set process (s.note (.interrupt sig process)))
  | .cancel =>
    (.error (.runtime (text "wait") .cancelled), killAndReap m set process (s.note (.cancelled process)))

theorem await_eq (m : Machine σ) (set : Settings) (process : Nat) (s : Shell σ) :
    await m set process s =
      let s := s.absorb m set.capture
      let wake := m.wake process s.interrupts.pending? s.cancelled s.world
      afterWake m set process wake.1.view { s with world := wake.2 } := rfl

/-- What the machine answers where the shell waits for a process. -/
def Shell.answer (m : Machine σ) (set : Settings) (process : Nat) (s : Shell σ) : WakeView :=
  let s := s.absorb m set.capture
  (m.wake process s.interrupts.pending? s.cancelled s.world).1.view

theorem killAndReap_eq (m : Machine σ) (set : Settings) (process : Nat) (s : Shell σ) :
    killAndReap m set process s =
      ({ s.killForeground m with world := (m.reap process (s.killForeground m).world).2 }.absorb m set.capture).untrack
        process := rfl

/-! ## Runs -/

/-- The shell when a line has found its slot empty. -/
def Shell.ready (m : Machine σ) (set : Settings) (s : Shell σ) : Shell σ := (s.absorb m set.capture).dropStale

/-- The shell in which the pipelines of a line begin: nothing was collected for it yet. -/
def Shell.cleared (m : Machine σ) (set : Settings) (s : Shell σ) : Shell σ :=
  { s.ready m set with capturedOut := [], capturedErr := [] }

/-- How a line ends whose pipelines have ended. -/
def PipelineEnd.line (s : Shell σ) : PipelineEnd → LineEnd
  | .code n => .returned (some (s.result n)) none
  | .failed f => .returned (some (s.result 0)) (some f)
  | .terminated n => .terminated n
  | .crashed => .crashed

theorem Draft.execute_eq (m : Machine σ) (set : Settings) {d : Draft} {ps : List (Option Stages)}
    (h : d.pipelines = .ok ps) (s : Shell σ) :
    execute m set d s =
      let r := runSequence m set ps 0 (s.cleared m set)
      (r.1.line r.2, r.2) := by
  simp only [execute, h]
  unfold Shell.cleared Shell.ready
  rcases runSequence m set ps 0 { (s.absorb m set.capture).dropStale with capturedOut := [], capturedErr := [] } with
    ⟨_ | _ | _ | _, t⟩ <;> rfl

theorem Draft.execute_error (m : Machine σ) (set : Settings) {d : Draft} {c : RuntimeCause} (h : d.pipelines = .error c)
    (s : Shell σ) : execute m set d s = (.returned none (some (.runtime (text "execute") c)), s.ready m set) := by
  simp only [execute, h]
  rfl

/-- A failure that does not end the line has a usage failure inside it, or else an interrupt. -/
theorem recoverable_cases {f : Failure} {r : Int × Event} (h : recoverable f = some r) :
    (f.chain.any Failure.isUsage ∧ r = (usageCode, .builtinFailed f)) ∨
      (f.chain.any Failure.isUsage = false ∧ f.chain.any Failure.isInterrupted ∧
        r = (interruptCode, .pipelineInterrupted f)) := by
  unfold recoverable at h
  split at h
  next husage => exact .inl ⟨husage, (Option.some.inj h).symm⟩
  next husage =>
    split at h
    next hinterrupted => exact .inr ⟨eq_false_of_ne_true husage, hinterrupted, (Option.some.inj h).symm⟩
    next => cases h

theorem Event.isFlushed_of_recoverable {f : Failure} {r : Int × Event} (hr : recoverable f = some r) :
    r.2.isFlushed = false := by
  rcases recoverable_cases hr with ⟨-, rfl⟩ | ⟨-, -, rfl⟩
  · rfl
  · rfl

section

variable {f : σ → τ} {a : Bytes → Bytes} {j : List Event → List Event} {m : Machine σ} {n : Machine τ}
  {set set' : Settings} (h : Shell.Hom m n set set' f a j)

include h

theorem runAction_view (act : Action) (s : Shell σ) :
    runAction n set' act (s.view f a j) = Prod.map id (Shell.view f a j) (runAction m set act s) := by
  induction act generalizing s with
  | finish failure => rfl
  | complain b k ih => rw [runAction, Shell.absorb_view h, h.write, ih, runAction]
  | exit code k ih =>
    simp only [runAction, Shell.absorb_view h, h.flush, Shell.note_view h _ (.exitHook code) rfl, h.hook]
    cases set.hook with
    | returns => exact ih _
    | terminates => rfl
  | changeDir path k ih =>
    simp only [runAction, Shell.view_world, h.machine.chdir]
    exact ih _ { s with world := (m.chdir path s.world).2 }
  | send sig k ih =>
    simp only [runAction, Shell.absorb_view h, Shell.send_view h]
    exact ih _ _
  | killAll k ih =>
    simp only [runAction, Shell.killForeground_view h, Shell.view_foreground,
      Shell.note_view h _ (.killed s.foreground.length) rfl]
    exact ih _ _
  | cancel k ih => exact ih { s with cancelled := true }

theorem openOutput_view (input : Option Nat) (r : Option Redirect) (s : Shell σ) :
    openOutput n input r (s.view f a j) = Prod.map id (Shell.view f a j) (openOutput m input r s) := by
  cases r with
  | none => rfl
  | some r =>
    simp only [openOutput, Shell.view_world, Shell.view_fresh, h.machine.openWrite]
    rcases m.openWrite s.fresh (r.kind = .append) r.path s.world with ⟨_ | e, w⟩
    · exact Prod.ext rfl (Shell.note_view h { s with world := w, fresh := s.fresh + 1 } _ rfl)
    · cases input with
      | none => rfl
      | some file => exact Prod.ext rfl (Shell.closeFile_view h { s with world := w, fresh := s.fresh + 1 } file)

theorem openRedirects_view (c : Command) (s : Shell σ) :
    openRedirects n c (s.view f a j) = Prod.map id (Shell.view f a j) (openRedirects m c s) := by
  unfold openRedirects
  split
  · rfl
  · split
    · exact openOutput_view h none c.output? s
    next r _ =>
      simp only [Shell.view_world, Shell.view_fresh, h.machine.openRead]
      rcases m.openRead s.fresh r.path s.world with ⟨_ | e, w⟩
      · have hnote := Shell.note_view h { s with world := w, fresh := s.fresh + 1 } (.opened s.fresh r) rfl
        exact (congrArg (openOutput n _ _) hnote).trans (openOutput_view h _ _ _)
      · rfl

theorem spawnStage_view (c : Command) (stdin : Source) (stdout : Sink) (files : List Nat) (p : Plumbing) (s : Shell σ) :
    spawnStage n c stdin stdout files p (s.view f a j) =
      Prod.map id (Prod.map id (Shell.view f a j)) (spawnStage m c stdin stdout files p s) := by
  simp only [spawnStage, Shell.view_world, Shell.view_fresh, h.machine.spawn]
  rcases m.spawn s.fresh ⟨c.words, stdin, stdout, .err⟩ s.world with ⟨_ | e, w⟩
  · exact Prod.ext rfl (Prod.ext rfl (Shell.note_view h
      { s with world := w, fresh := s.fresh + 1, foreground := s.foreground ++ [s.fresh] } _ rfl))
  · rfl

theorem startCommand_view (c : Command) (stdin : Source) (stdout : Sink) (p : Plumbing) (s : Shell σ) :
    startCommand n set' c stdin stdout p (s.view f a j) =
      Prod.map id (Prod.map id (Shell.view f a j)) (startCommand m set c stdin stdout p s) := by
  unfold startCommand
  rw [openRedirects_view h, h.registry]
  rcases openRedirects m c s with ⟨e | o, s⟩
  · rfl
  · simp only [Prod.map_apply, id_eq]
    cases set.registry.lookup c.name with
    | none => exact spawnStage_view h c _ _ _ p s
    | some b =>
      simp only [Shell.note_view h s (.builtin c.name c.args) rfl, runAction_view h]
      rcases runAction m set (b.run c.args) (s.note (.builtin c.name c.args)) with ⟨(_ | f) | code, s⟩ <;> rfl

theorem handOver_view (writer : Option Nat) (p : Plumbing) (s : Shell σ) :
    handOver n writer p (s.view f a j) = Prod.map id (Shell.view f a j) (handOver m writer p s) := by
  unfold handOver
  cases writer <;> cases p.reader <;> simp only [Shell.closeWriter_view h, Shell.closeReader_view h] <;> rfl

theorem passOn_view (writer : Option Nat) (r : StageEnd × Plumbing × Shell σ) :
    passOn n writer (Prod.map id (Prod.map id (Shell.view f a j)) r) =
      Prod.map id (Prod.map id (Shell.view f a j)) (passOn m writer r) := by
  obtain ⟨e, p, s⟩ := r
  cases e with
  | started => exact congrArg (Prod.mk _) (handOver_view h writer p s)
  | failed f => exact congrArg (Prod.mk _) (handOver_view h writer p s)
  | terminated code => rfl

theorem startStage_view (last : Bool) (c : Command) (p : Plumbing) (s : Shell σ) :
    startStage n set' last c p (s.view f a j) =
      Prod.map id (Prod.map id (Shell.view f a j)) (startStage m set last c p s) := by
  rw [startStage_eq, startStage_eq, h.registry]
  split
  · rw [startCommand_view h, passOn_view h]
  · rw [Shell.view_world, Shell.view_fresh, h.machine.makePipe]
    rcases m.makePipe s.fresh s.world with ⟨_ | e, w⟩
    · rw [← passOn_view h, ← startCommand_view h]
      have hnote := Shell.note_view h { s with world := w, fresh := s.fresh + 1 } (.piped s.fresh) rfl
      exact congrArg (fun t => passOn n (some s.fresh) (startCommand n set' c _ _ p t)) hnote
    · rfl

theorem startStages_view (cs : Stages) (p : Plumbing) (s : Shell σ) :
    startStages n set' cs p (s.view f a j) =
      Prod.map id (Prod.map id (Shell.view f a j)) (startStages m set cs p s) := by
  induction cs generalizing p s with
  | nil => rfl
  | cons c cs ih =>
    cases c with
    | none => rfl
    | some c =>
      unfold startStages
      dsimp only
      split
      · rfl
      · rw [startStage_view h]
        rcases startStage m set cs.isEmpty c p s with ⟨_ | f | code, p, s⟩
        · exact ih p s
        · rfl
        · rfl

theorem reapAll_view (ps : List Nat) (s : Shell σ) :
    reapAll n set' ps (s.view f a j) = (reapAll m set ps s).view f a j := by
  induction ps generalizing s with
  | nil => rfl
  | cons p ps ih =>
    unfold reapAll
    rw [Shell.view_world, h.machine.kill, h.machine.reap]
    rw [← ih, ← Shell.untrack_view h, ← Shell.absorb_view h]
    rfl

theorem killAndReap_view (process : Nat) (s : Shell σ) :
    killAndReap n set' process (s.view f a j) = (killAndReap m set process s).view f a j := by
  rw [killAndReap_eq, killAndReap_eq, Shell.killForeground_view h, Shell.view_world, h.machine.reap,
    ← Shell.untrack_view h, ← Shell.absorb_view h]
  rfl

theorem afterWake_view (process : Nat) (view : WakeView) (s : Shell σ) :
    afterWake n set' process view (s.view f a j) = Prod.map id (Shell.view f a j) (afterWake m set process view s) := by
  have htaken : ({ s.view f a j with interrupts := (s.view f a j).interrupts.receive.2 } : Shell τ) =
      ({ s with interrupts := s.interrupts.receive.2 } : Shell σ).view f a j := rfl
  match view with
  | .exit r => simp only [afterWake, Shell.absorb_view h, Shell.untrack_view h, Prod.map_apply, id_eq]
  | .signal sig (some r) =>
    simp only [afterWake, htaken, Shell.absorb_view h, Shell.untrack_view h, Shell.send_view h]
    rfl
  | .signal sig none =>
    simp only [afterWake, htaken, Shell.absorb_view h, Shell.note_view h _ (.interrupt sig process) rfl,
      killAndReap_view h, Prod.map_apply, id_eq]
  | .cancel =>
    simp only [afterWake, Shell.note_view h _ (.cancelled process) rfl, killAndReap_view h, Prod.map_apply, id_eq]

theorem await_view (process : Nat) (s : Shell σ) :
    await n set' process (s.view f a j) = Prod.map id (Shell.view f a j) (await m set process s) := by
  rw [await_eq, await_eq, Shell.absorb_view h, ← afterWake_view h]
  generalize s.absorb m set.capture = s
  dsimp only [Shell.view_world, Shell.view_interrupts, Shell.view_cancelled]
  rw [h.machine.wake]
  rfl

theorem awaitAll_view (ps : List Nat) (last : Option Ended) (s : Shell σ) :
    awaitAll n set' ps last (s.view f a j) = Prod.map id (Shell.view f a j) (awaitAll m set ps last s) := by
  induction ps generalizing last s with
  | nil => rfl
  | cons p ps ih =>
    unfold awaitAll
    rw [await_view h]
    rcases await m set p s with ⟨f | e, s⟩
    · exact congrArg (Prod.mk _) (reapAll_view h ps s)
    · exact ih _ s

theorem closeAll_view (p : Plumbing) (s : Shell σ) :
    closeAll n p (s.view f a j) = (closeAll m p s).view f a j := by
  have hfold (files : List Nat) (s : Shell σ) :
      files.foldl (fun s file => s.closeFile n file) (s.view f a j) =
        (files.foldl (fun s file => s.closeFile m file) s).view f a j := by
    induction files generalizing s with
    | nil => rfl
    | cons file files ih => rw [List.foldl_cons, List.foldl_cons, Shell.closeFile_view h, ih]
  unfold closeAll
  cases p.reader with
  | none => exact hfold p.files s
  | some q => simp only [Shell.closeReader_view h, hfold]

theorem runStages_view (cs : Stages) (s : Shell σ) :
    runStages n set' cs (s.view f a j) = Prod.map id (Shell.view f a j) (runStages m set cs s) := by
  unfold runStages
  rw [startStages_view h]
  rcases startStages m set cs {} s with ⟨_ | failure | code, p, s⟩
  · simp only [Prod.map_apply, id_eq, awaitAll_view h]
    rcases awaitAll m set p.processes none s with ⟨failure | last, s⟩
    · exact congrArg (Prod.mk _) (closeAll_view h p s)
    · exact congrArg (Prod.mk _) (closeAll_view h p s)
  · simp only [Prod.map_apply, id_eq, reapAll_view h, closeAll_view h]
  · rfl

theorem runPipeline_view (p : Option Stages) (s : Shell σ) :
    runPipeline n set' p (s.view f a j) = Prod.map id (Shell.view f a j) (runPipeline m set p s) := by
  match p with
  | none => rfl
  | some [] => rfl
  | some (c :: cs) =>
    cases hp : Stages.pipeline? (c :: cs) with
    | none =>
      simp only [runPipeline, hp]
      rfl
    | some pipeline =>
      simp only [runPipeline, hp, Shell.note_view h s (.pipeline (Pipeline.render pipeline)) rfl, runStages_view h]

/-- A view carries the run of a sequence. -/
theorem runSequence_view (ps : List (Option Stages)) (code : Int) (s : Shell σ) :
    runSequence n set' ps code (s.view f a j) = Prod.map id (Shell.view f a j) (runSequence m set ps code s) := by
  induction ps generalizing code s with
  | nil => rfl
  | cons p ps ih =>
    unfold runSequence
    rw [runPipeline_view h]
    rcases runPipeline m set p s with ⟨n | failure | code | _, s⟩
    · exact ih n s
    · simp only [Prod.map_apply, id_eq]
      cases hr : recoverable failure with
      | none => rfl
      | some r =>
        simp only [Shell.note_view h s r.2 (Event.isFlushed_of_recoverable hr)]
        exact ih r.1 (s.note r.2)
    · rfl
    · rfl

theorem dropStale_view (s : Shell σ) : (s.view f a j).dropStale = s.dropStale.view f a j := by
  unfold Shell.dropStale
  rcases hd : s.interrupts.drain with ⟨_ | k, i⟩
  · simp only [Shell.view_interrupts, hd]
    rfl
  · simp only [Shell.view_interrupts, hd]
    exact Shell.note_view h { s with interrupts := i } _ rfl

end

/-- A view that shows what was collected as it is carries the run of a tree. -/
theorem execute_view {f : σ → τ} {j : List Event → List Event} {m : Machine σ} {n : Machine τ} {set set' : Settings}
    (h : Shell.Hom m n set set' f id j) (d : Draft) (s : Shell σ) :
    execute n set' d (s.view f id j) = Prod.map id (Shell.view f id j) (execute m set d s) := by
  unfold execute
  rw [Shell.absorb_view h, dropStale_view h]
  generalize (s.absorb m set.capture).dropStale = s
  cases d.pipelines with
  | error c => rfl
  | ok ps =>
    have hsequence := runSequence_view h ps 0 { s with capturedOut := [], capturedErr := [] }
    dsimp only
    change runSequence n set' ps 0 { s.view f id j with capturedOut := [], capturedErr := [] } = _ at hsequence
    rw [hsequence]
    rcases runSequence m set ps 0 { s with capturedOut := [], capturedErr := [] } with ⟨n | failure | code | _, s⟩ <;> rfl

/-! ## Journals that begin differently -/

/-- A shell with other events before those that are noted from here on. -/
theorem Shell.hom_journal (m : Machine σ) (set : Settings) (base : List Event) :
    Shell.Hom m m set set id id (base ++ ·) where
  machine := m.hom_id
  registry := rfl
  hook := rfl
  journal es e _ := (List.append_assoc base es [e]).symm
  write s stream bytes := by
    unfold write
    split
    · rfl
    · cases set.capture <;> cases stream <;> simp [note, view]
  flush s := by
    unfold flush
    cases set.capture && set.flushOut <;> cases set.capture && set.flushErr <;> simp [flushStream, note, view]

/-- What pipelines do is the same whatever the journal has got before. -/
theorem runSequence_journal (m : Machine σ) (set : Settings) (ps : List (Option Stages)) (code : Int) (s : Shell σ)
    (j : List Event) :
    ∃ es, (runSequence m set ps code s).2.journal = s.journal ++ es ∧
      runSequence m set ps code { s with journal := j } =
        ((runSequence m set ps code s).1, { (runSequence m set ps code s).2 with journal := j ++ es }) := by
  have hview (base : List Event) : runSequence m set ps code { s with journal := base } =
      Prod.map id (Shell.view id id (base ++ ·)) (runSequence m set ps code { s with journal := [] }) := by
    have hrun := runSequence_view (Shell.hom_journal m set base) ps code { s with journal := [] }
    rw [← hrun]
    simp [Shell.view]
  have hself := hview s.journal
  change runSequence m set ps code s = _ at hself
  refine ⟨(runSequence m set ps code { s with journal := [] }).2.journal, ?_, ?_⟩
  · rw [hself]
    rfl
  · rw [hview j, hself]
    rfl

/-! ## Maps of machines -/

section

variable {f : σ → τ} {m : Machine σ} {n : Machine τ} (h : m.Hom n f) (set : Settings)

include h

theorem openRedirects_map (c : Command) (s : Shell σ) :
    openRedirects n c (s.map f) = Prod.map id (Shell.map f) (openRedirects m c s) :=
  openRedirects_view (Shell.hom_map h {}) c s

theorem startStage_map (last : Bool) (c : Command) (p : Plumbing) (s : Shell σ) :
    startStage n set last c p (s.map f) =
      Prod.map id (Prod.map id (Shell.map f)) (startStage m set last c p s) :=
  startStage_view (Shell.hom_map h set) last c p s

/-- A map of machines carries the run of a pipeline. -/
theorem runPipeline_map (p : Option Stages) (s : Shell σ) :
    runPipeline n set p (s.map f) = Prod.map id (Shell.map f) (runPipeline m set p s) :=
  runPipeline_view (Shell.hom_map h set) p s

/-- A map of machines carries the run of a tree. -/
theorem execute_map (d : Draft) (s : Shell σ) :
    execute n set d (s.map f) = Prod.map id (Shell.map f) (execute m set d s) :=
  execute_view (Shell.hom_map h set) d s

end

/-! ## Something beside a machine -/

/-- A machine with something beside its world that no request changes. -/
def Machine.beside (m : Machine σ) (α : Type) : Machine (σ × α) where
  openRead file path w := Prod.map id (·, w.2) (m.openRead file path w.1)
  openWrite file append path w := Prod.map id (·, w.2) (m.openWrite file append path w.1)
  closeFile file w := (m.closeFile file w.1, w.2)
  makePipe pipe w := Prod.map id (·, w.2) (m.makePipe pipe w.1)
  closeReader pipe w := (m.closeReader pipe w.1, w.2)
  closeWriter pipe w := (m.closeWriter pipe w.1, w.2)
  spawn process launch w := Prod.map id (·, w.2) (m.spawn process launch w.1)
  kill process w := (m.kill process w.1, w.2)
  reap process w := Prod.map id (·, w.2) (m.reap process w.1)
  wake process pending cancelled w := Prod.map id (·, w.2) (m.wake process pending cancelled w.1)
  chdir path w := Prod.map id (·, w.2) (m.chdir path w.1)
  cwd w := m.cwd w.1
  meanwhile w := Prod.map id (·, w.2) (m.meanwhile w.1)

theorem Machine.beside_hom (m : Machine σ) {α : Type} (a : α) : m.Hom (m.beside α) (·, a) where
  openRead _ _ _ := rfl
  openWrite _ _ _ _ := rfl
  closeFile _ _ := rfl
  makePipe _ _ := rfl
  closeReader _ _ := rfl
  closeWriter _ _ := rfl
  spawn _ _ _ := rfl
  kill _ _ := rfl
  reap _ _ := rfl
  wake _ _ _ _ := rfl
  chdir _ _ := rfl
  cwd _ := rfl
  meanwhile _ := rfl

theorem Machine.fst_hom (m : Machine σ) {α : Type} : (m.beside α).Hom m Prod.fst where
  openRead _ _ _ := rfl
  openWrite _ _ _ _ := rfl
  closeFile _ _ := rfl
  makePipe _ _ := rfl
  closeReader _ _ := rfl
  closeWriter _ _ := rfl
  spawn _ _ _ := rfl
  kill _ _ := rfl
  reap _ _ := rfl
  wake _ _ _ _ := rfl
  chdir _ _ := rfl
  cwd _ := rfl
  meanwhile _ := rfl

/-- The machine on which every request succeeds at once, and nothing else happens. -/
def Machine.idle (σ : Type) : Machine σ where
  openRead _ _ w := (none, w)
  openWrite _ _ _ w := (none, w)
  closeFile _ w := w
  makePipe _ w := (none, w)
  closeReader _ w := w
  closeWriter _ w := w
  spawn _ _ w := (none, w)
  kill _ w := w
  reap _ w := (.ok (.code 0), w)
  wake _ _ _ w := (.exit (.ok (.code 0)), w)
  chdir _ w := (none, w)
  cwd _ := []
  meanwhile w := ([], w)

/-- The idle machine whose world is its working directory. -/
def Machine.walking : Machine Bytes := { Machine.idle Bytes with chdir := fun path _ => (none, path), cwd := id }

end AuditShell
