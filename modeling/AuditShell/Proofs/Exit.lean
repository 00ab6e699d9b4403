import AuditShell.Proofs.Journal
/-!
# Leaving the shell

A builtin that leaves the shell with a code ends its stage, its pipeline and its line: with the failure of
an exit where the exit hook comes back, and with the end of the shell where it does not (`exits_execute`).
The shell ends in no other way: the last thing that it notes is then the call of the hook. A line that was
read as a tree comes back or ends the shell (`execute_ofTree_ne_crashed`).
-/

namespace AuditShell

variable {σ : Type}

/-- The event says that a builtin ran which leaves the shell with a code. -/
def Event.Leaves (set : Settings) (n : Int) (e : Event) : Prop :=
  ∃ name args b, e = .builtin name args ∧ set.registry.lookup name = some b ∧ b.run args = Builtin.leave n

theorem Event.quiet.not_leaves {e : Event} (h : e.quiet) (set : Settings) (n : Int) : ¬ e.Leaves set n := by
  rintro ⟨name, args, b, rfl, -⟩
  cases h

theorem Event.OfBuiltin.not_leaves {e : Event} {k : Nat} (h : e.OfBuiltin k) (set : Settings) (n : Int) :
    ¬ e.Leaves set n := by
  rintro ⟨name, args, b, rfl, -⟩
  rcases h with h | ⟨code, h⟩ | h
  · cases h
  · cases h
  · cases h

/-- How a builtin ends that leaves the shell. -/
def ActionEnd.left (n : Int) : ExitHook → ActionEnd
  | .returns => .returned (some (.exit n))
  | .terminates => .terminated n

/-- How a stage ends whose builtin leaves the shell. -/
def StageEnd.left (n : Int) : ExitHook → StageEnd
  | .returns => .failed (.exit n)
  | .terminates => .terminated n

/-- How a pipeline ends of which a builtin leaves the shell. -/
def PipelineEnd.left (n : Int) : ExitHook → PipelineEnd
  | .returns => .failed (.exit n)
  | .terminates => .terminated n

/-- How a line ends in which a builtin leaves the shell. -/
def LineEnd.Left (n : Int) (e : LineEnd) : ExitHook → Prop
  | .returns => ∃ result, e = .returned (some result) (some (.exit n))
  | .terminates => e = .terminated n

/-- From a shell to a later one a builtin has left the shell only where `left` holds, and where the shell
has ended, the hook was called last and did not come back. -/
structure Exits (set : Settings) (left terminated : Int → Prop) (s s' : Shell σ) : Prop where
  leaves : s.Grows (fun e => ∀ n, e.Leaves set n → left n) s'
  hook : ∀ code, terminated code → set.hook = .terminates ∧ s'.journal.getLast? = some (.exitHook code)

theorem Shell.Grows.leaves {s s' : Shell σ} (h : s.Grows (·.quiet) s') (set : Settings) (left : Int → Prop) :
    s.Grows (fun e => ∀ n, e.Leaves set n → left n) s' :=
  h.mono fun _ he n hn => absurd hn (Event.quiet.not_leaves he set n)

/-- Quiet steps before a part of a run. -/
theorem Exits.after {set : Settings} {left terminated : Int → Prop} {s s' s'' : Shell σ}
    (h : Exits set left terminated s' s'') (hs : s.Grows (·.quiet) s') : Exits set left terminated s s'' :=
  ⟨(hs.leaves set left).trans h.leaves, h.hook⟩

/-- Quiet steps of a shell that goes on. -/
theorem Exits.of_quiet {set : Settings} {left terminated : Int → Prop} {s s' : Shell σ} (hs : s.Grows (·.quiet) s')
    (hend : ∀ code, ¬ terminated code) : Exits set left terminated s s' :=
  ⟨hs.leaves set left, fun code hcode => absurd hcode (hend code)⟩

/-- A part of a run in which nothing has left the shell. -/
theorem Exits.stays {set : Settings} {left left' terminated : Int → Prop} {s s' : Shell σ}
    (h : Exits set left terminated s s') (hnone : ∀ n, ¬ left n) :
    s.Grows (fun e => ∀ n, e.Leaves set n → left' n) s' :=
  h.leaves.mono fun _ he n hn => absurd (he n hn) (hnone n)

variable (m : Machine σ) (set : Settings)

/-! ## Builtins -/

theorem runAction_leave (n : Int) (s : Shell σ) :
    (runAction m set (Builtin.leave n) s).1 = .left n set.hook := by
  simp only [Builtin.leave, runAction]
  cases set.hook <;> rfl

theorem runAction_terminated {a : Action} {s : Shell σ} {code : Int}
    (h : (runAction m set a s).1 = .terminated code) :
    set.hook = .terminates ∧ (runAction m set a s).2.journal.getLast? = some (.exitHook code) := by
  induction a generalizing s with
  | finish failure => cases h
  | complain b k ih => exact ih h
  | exit n k ih =>
    unfold runAction at h ⊢
    cases hhook : set.hook with
    | returns =>
      rw [hhook] at h
      have := (ih h).1
      rw [hhook] at this
      cases this
    | terminates =>
      rw [hhook] at h
      cases h
      exact ⟨rfl, List.getLast?_concat⟩
  | changeDir path k ih => exact ih _ h
  | send sig k ih => exact ih _ h
  | killAll k ih => exact ih _ h
  | cancel k ih => exact ih h

/-! ## Stages -/

/-- How a stage ends whose builtin has ended. -/
def ActionEnd.stage : ActionEnd → StageEnd
  | .returned none => .started
  | .returned (some f) => .failed f
  | .terminated code => .terminated code

theorem ActionEnd.stage_left (n : Int) (hook : ExitHook) : (ActionEnd.left n hook).stage = .left n hook := by
  cases hook <;> rfl

theorem ActionEnd.stage_terminated {e : ActionEnd} {code : Int} (h : e.stage = .terminated code) :
    e = .terminated code := by
  match e with
  | .returned none => cases h
  | .returned (some f) => cases h
  | .terminated _ => cases h; rfl

theorem exits_spawnStage (c : Command) (stdin : Source) (stdout : Sink) (files : List Nat) (p : Plumbing) (s : Shell σ) :
    Exits set (fun n => (spawnStage m c stdin stdout files p s).1 = .left n set.hook)
      (fun code => (spawnStage m c stdin stdout files p s).1 = .terminated code) s
      (spawnStage m c stdin stdout files p s).2.2 := by
  unfold spawnStage
  dsimp only
  rcases m.spawn s.fresh ⟨c.words, stdin, stdout, .err⟩ s.world with ⟨_ | e, w⟩
  · refine ⟨.note (.of_eq rfl) ?_, by simp⟩
    rintro n ⟨name, args, b, h, -⟩
    cases h
  · exact .of_quiet (.of_eq rfl) (by simp)

theorem startCommand_builtin {c : Command} {s t : Shell σ} {o : Opened} {b : Builtin}
    (hopen : openRedirects m c s = (.ok o, t)) (hb : set.registry.lookup c.name = some b) (stdin : Source) (stdout : Sink)
    (p : Plumbing) :
    startCommand m set c stdin stdout p s =
      ((runAction m set (b.run c.args) (t.note (.builtin c.name c.args))).1.stage, { p with files := p.files ++ o.files },
        (runAction m set (b.run c.args) (t.note (.builtin c.name c.args))).2) := by
  simp only [startCommand, hopen, hb]
  rcases runAction m set (b.run c.args) (t.note (.builtin c.name c.args)) with ⟨(_ | f) | code, u⟩ <;> rfl

theorem exits_startCommand (c : Command) (stdin : Source) (stdout : Sink) (p : Plumbing) (s : Shell σ) :
    Exits set (fun n => (startCommand m set c stdin stdout p s).1 = .left n set.hook)
      (fun code => (startCommand m set c stdin stdout p s).1 = .terminated code) s
      (startCommand m set c stdin stdout p s).2.2 := by
  have hopened := grows_openRedirects m c s
  rcases hopen : openRedirects m c s with ⟨f | o, t⟩
  · rw [hopen] at hopened
    simp only [startCommand, hopen]
    exact .of_quiet hopened (by simp)
  rw [hopen] at hopened
  cases hlookup : set.registry.lookup c.name with
  | none =>
    simp only [startCommand, hopen, hlookup]
    exact (exits_spawnStage m set c _ _ o.files p t).after hopened
  | some b =>
    have hran := (stays_runAction m.leaves_unit set (b.run c.args) (t.note (.builtin c.name c.args))).journal
    rw [startCommand_builtin m set hopen hlookup]
    refine ⟨?_, fun code hcode => runAction_terminated m set (ActionEnd.stage_terminated hcode)⟩
    -- only the event of the builtin itself can say that it leaves the shell
    refine ((hopened.leaves set _).note ?_).trans (hran.mono fun e he n hn => absurd hn (he.not_leaves set n))
    rintro n ⟨name, args, b', he, hb', hleave⟩
    cases he
    rw [hlookup] at hb'
    cases hb'
    rw [hleave, runAction_leave, ActionEnd.stage_left]

theorem exits_passOn {s : Shell σ} {r : StageEnd × Plumbing × Shell σ} (writer : Option Nat)
    (h : Exits set (fun n => r.1 = .left n set.hook) (fun code => r.1 = .terminated code) s r.2.2) :
    Exits set (fun n => (passOn m writer r).1 = .left n set.hook) (fun code => (passOn m writer r).1 = .terminated code) s
      (passOn m writer r).2.2 := by
  obtain ⟨e, p, t⟩ := r
  cases e with
  | started => exact ⟨h.leaves.trans ((grows_handOver m writer p t).leaves set _), by simp [passOn]⟩
  | failed f => exact ⟨h.leaves.trans ((grows_handOver m writer p t).leaves set _), by simp [passOn]⟩
  | terminated code => exact h

theorem exits_startStage (last : Bool) (c : Command) (p : Plumbing) (s : Shell σ) :
    Exits set (fun n => (startStage m set last c p s).1 = .left n set.hook)
      (fun code => (startStage m set last c p s).1 = .terminated code) s (startStage m set last c p s).2.2 := by
  rw [startStage_eq]
  split
  · exact exits_passOn m set none (exits_startCommand m set c _ _ p s)
  · rcases m.makePipe s.fresh s.world with ⟨_ | e, w⟩
    · have hpiped : s.Grows (·.quiet) (({ s with world := w, fresh := s.fresh + 1 } : Shell σ).note (.piped s.fresh)) :=
        .note (.of_eq rfl) rfl
      exact exits_passOn m set (some s.fresh) ((exits_startCommand m set c _ _ p _).after hpiped)
    · exact .of_quiet (.of_eq rfl) (by simp)

theorem StageEnd.left_ne_started (n : Int) (hook : ExitHook) : StageEnd.started ≠ .left n hook := by
  cases hook <;> simp [StageEnd.left]

theorem exits_startStages (cs : Stages) (p : Plumbing) (s : Shell σ) :
    Exits set (fun n => (startStages m set cs p s).1 = .left n set.hook)
      (fun code => (startStages m set cs p s).1 = .terminated code) s (startStages m set cs p s).2.2 := by
  induction cs generalizing p s with
  | nil => exact .of_quiet (.of_eq rfl) (by simp [startStages])
  | cons c cs ih =>
    cases c with
    | none => exact .of_quiet (.of_eq rfl) (by simp [startStages])
    | some c =>
      unfold startStages
      dsimp only
      split
      · exact .of_quiet (.of_eq rfl) (by simp)
      · have hstage := exits_startStage m set cs.isEmpty c p s
        generalize startStage m set cs.isEmpty c p s = r at hstage ⊢
        obtain ⟨_ | f | code, q, t⟩ := r
        · have hrest := ih q t
          exact ⟨(hstage.stays fun n => StageEnd.left_ne_started n set.hook).trans hrest.leaves, hrest.hook⟩
        · exact hstage
        · exact hstage

/-! ## Pipelines and lines -/

theorem StageEnd.failed_left {f : Failure} {n : Int} {hook : ExitHook} (h : StageEnd.failed f = .left n hook) :
    PipelineEnd.failed f = .left n hook := by
  cases hook <;> cases h
  rfl

theorem StageEnd.terminated_left {code n : Int} {hook : ExitHook} (h : StageEnd.terminated code = .left n hook) :
    PipelineEnd.terminated code = .left n hook := by
  cases hook <;> cases h
  rfl

theorem exits_runStages (cs : Stages) (s : Shell σ) :
    Exits set (fun n => (runStages m set cs s).1 = .left n set.hook)
      (fun code => (runStages m set cs s).1 = .terminated code) s (runStages m set cs s).2 := by
  have hstages := exits_startStages m set cs {} s
  unfold runStages
  generalize startStages m set cs {} s = r at hstages ⊢
  obtain ⟨_ | f | code, p, t⟩ := r
  · have hawaited := grows_awaitAll m set p.processes none t
    have hstarted (n : Int) := StageEnd.left_ne_started n set.hook
    dsimp only
    generalize awaitAll m set p.processes none t = r at hawaited ⊢
    have hclosed := hawaited.trans (grows_closeAll m p r.2)
    obtain ⟨f | last, u⟩ := r
    · exact ⟨(hstages.stays hstarted).trans (hclosed.leaves set _), by simp⟩
    · exact ⟨(hstages.stays hstarted).trans (hclosed.leaves set _), by simp⟩
  · have hclosed := (grows_reapAll m set p.processes t).trans (grows_closeAll m p _)
    exact ⟨(hstages.leaves.mono fun e he n hn => StageEnd.failed_left (he n hn)).trans (hclosed.leaves set _), by simp⟩
  · refine ⟨hstages.leaves.mono fun e he n hn => StageEnd.terminated_left (he n hn), fun code' hcode => ?_⟩
    cases hcode
    exact hstages.hook code rfl

theorem exits_runPipeline (p : Option Stages) (s : Shell σ) :
    Exits set (fun n => (runPipeline m set p s).1 = .left n set.hook)
      (fun code => (runPipeline m set p s).1 = .terminated code) s (runPipeline m set p s).2 := by
  match p with
  | none => exact .of_quiet (.of_eq rfl) (by simp [runPipeline])
  | some [] => exact .of_quiet (.of_eq rfl) (by simp [runPipeline])
  | some (c :: cs) =>
    cases hp : Stages.pipeline? (c :: cs) with
    | none =>
      simp only [runPipeline, hp]
      exact .of_quiet (.of_eq rfl) (by simp)
    | some pipeline =>
      simp only [runPipeline, hp]
      exact (exits_runStages m set (c :: cs) _).after (.note (.of_eq rfl) rfl)

theorem quiet_of_recoverable {f : Failure} {r : Int × Event} (h : recoverable f = some r) : r.2.quiet := by
  rcases recoverable_cases h with ⟨-, rfl⟩ | ⟨-, -, rfl⟩
  · rfl
  · rfl

theorem recoverable_left {f : Failure} {n : Int} {hook : ExitHook} (h : PipelineEnd.failed f = .left n hook) :
    recoverable f = none := by
  cases hook <;> cases h
  rfl

theorem PipelineEnd.left_ne_code (n k : Int) (hook : ExitHook) : PipelineEnd.code k ≠ .left n hook := by
  cases hook <;> simp [PipelineEnd.left]

theorem exits_runSequence (ps : List (Option Stages)) (code : Int) (s : Shell σ) :
    Exits set (fun n => (runSequence m set ps code s).1 = .left n set.hook)
      (fun code' => (runSequence m set ps code s).1 = .terminated code') s (runSequence m set ps code s).2 := by
  induction ps generalizing code s with
  | nil => exact .of_quiet (.of_eq rfl) (by simp [runSequence])
  | cons p ps ih =>
    have hpipeline := exits_runPipeline m set p s
    unfold runSequence
    generalize runPipeline m set p s = r at hpipeline ⊢
    obtain ⟨k | f | code' | _, t⟩ := r
    · have hrest := ih k t
      exact ⟨(hpipeline.stays fun n => PipelineEnd.left_ne_code n k set.hook).trans hrest.leaves, hrest.hook⟩
    · dsimp only
      cases hf : recoverable f with
      | none => exact ⟨hpipeline.leaves, by simp⟩
      | some r =>
        have hrest := (ih r.1 (t.note r.2)).after (.note (.of_eq rfl) (quiet_of_recoverable hf))
        refine ⟨(hpipeline.leaves.mono fun e he n hn => ?_).trans hrest.leaves, hrest.hook⟩
        -- the failure of an exit ends the line
        rw [recoverable_left (he n hn)] at hf
        cases hf
    · exact hpipeline
    · exact hpipeline

theorem PipelineEnd.line_left (n : Int) (hook : ExitHook) (s : Shell σ) :
    ((PipelineEnd.left n hook).line s).Left n hook := by
  cases hook with
  | returns => exact ⟨s.result 0, rfl⟩
  | terminates => rfl

theorem PipelineEnd.line_terminated {e : PipelineEnd} {s : Shell σ} {code : Int} (h : e.line s = .terminated code) :
    e = .terminated code := by
  cases e <;> cases h
  rfl

theorem grows_dropStale (s : Shell σ) : s.Grows (·.quiet) s.dropStale := by
  unfold Shell.dropStale
  dsimp only
  split
  · exact .of_eq rfl
  · exact .note (.of_eq rfl) rfl

/-- Where a builtin leaves the shell, the line ends with this exit, and the shell ends with a line only
where the exit hook was called and did not come back. -/
theorem exits_execute (d : Draft) (s : Shell σ) :
    Exits set (fun n => (execute m set d s).1.Left n set.hook) (fun code => (execute m set d s).1 = .terminated code) s
      (execute m set d s).2 := by
  have hstart := (s.grows_absorb m set.capture).trans (grows_dropStale (s.absorb m set.capture))
  cases hd : d.pipelines with
  | error c =>
    simp only [execute, hd]
    exact .of_quiet hstart (by simp)
  | ok ps =>
    have hsequence := (exits_runSequence m set ps 0 (s.cleared m set)).after hstart
    rw [Draft.execute_eq m set hd]
    refine ⟨hsequence.leaves.mono fun e he n hn => ?_, fun code hcode => ?_⟩
    · dsimp only
      rw [he n hn]
      exact PipelineEnd.line_left n set.hook _
    · exact hsequence.hook code (PipelineEnd.line_terminated hcode)

/-! ## Lines that were read -/

theorem runStages_ne_crashed (cs : Stages) (s : Shell σ) : (runStages m set cs s).1 ≠ .crashed := by
  unfold runStages
  rcases startStages m set cs {} s with ⟨_ | f | code, p, t⟩
  · dsimp only
    rcases awaitAll m set p.processes none t with ⟨f | last, u⟩ <;> simp
  · simp
  · simp

theorem Stages.pipeline?_ofPipeline (p : Pipeline) : (Stages.ofPipeline p).pipeline? = some p := by
  induction p with
  | nil => rfl
  | cons c p ih =>
    have hrest : Stages.pipeline? (p.map some) = some p := ih
    simp [Stages.ofPipeline, Stages.pipeline?, hrest]

theorem runPipeline_ofPipeline_ne_crashed (p : Pipeline) (s : Shell σ) :
    (runPipeline m set (some (Stages.ofPipeline p)) s).1 ≠ .crashed := by
  cases p with
  | nil => simp [Stages.ofPipeline, runPipeline]
  | cons c p =>
    have hp : Stages.pipeline? (some c :: p.map some) = some (c :: p) := Stages.pipeline?_ofPipeline (c :: p)
    simp only [Stages.ofPipeline, List.map_cons, runPipeline, hp]
    exact runStages_ne_crashed m set _ _

theorem runSequence_ofPipelines_ne_crashed (ps : List Pipeline) (code : Int) (s : Shell σ) :
    (runSequence m set (ps.map fun p => some (Stages.ofPipeline p)) code s).1 ≠ .crashed := by
  induction ps generalizing code s with
  | nil => simp [runSequence]
  | cons p ps ih =>
    have hp := runPipeline_ofPipeline_ne_crashed m set p s
    rw [List.map_cons, runSequence]
    generalize runPipeline m set (some (Stages.ofPipeline p)) s = r at hp ⊢
    obtain ⟨n | f | n | _, t⟩ := r
    · exact ih n t
    · dsimp only
      cases recoverable f with
      | none => simp
      | some r => exact ih r.1 (t.note r.2)
    · simp
    · exact absurd rfl hp

theorem Draft.pipelines_ofTree (tree : Tree) :
    (Draft.ofTree tree).pipelines = .ok (tree.pipelines.map fun p => some (Stages.ofPipeline p)) := by
  cases tree <;> rfl

/-- A line that was read as a tree comes back, or it ends the shell. -/
theorem execute_ofTree_ne_crashed (tree : Tree) (s : Shell σ) : (execute m set (.ofTree tree) s).1 ≠ .crashed := by
  rw [Draft.execute_eq m set (Draft.pipelines_ofTree tree)]
  have hsequence := runSequence_ofPipelines_ne_crashed m set tree.pipelines 0
    (s.cleared m set)
  dsimp only
  revert hsequence
  generalize runSequence m set _ 0 _ = r
  rcases r with ⟨n | f | n | _, t⟩ <;> simp [PipelineEnd.line]

end AuditShell
