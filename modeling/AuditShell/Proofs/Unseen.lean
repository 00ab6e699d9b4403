import AuditShell.Proofs.Recording
import AuditShell.Repl
/-!
# The log is not seen

Where the commands neither read nor change the log, a shell does the same with a log, without one, and with one that
cannot be written (`log_unseen`). Two sessions are compared in what they show without the log (`Shell.seen`): the rest
of the world, what was collected, and the journal without the failures of the log, which only the debug log tells. A
line up to its record works on what is seen (`attempt_seen`), and the record itself is not seen (`record_seen`).
-/

namespace AuditShell

variable {σ τ : Type}

/-- Whether an event says that a line could not be logged. -/
def Event.isAuditFailed : Event → Bool
  | .auditFailed _ => true
  | _ => false

/-- What a shell shows without the log. `rest` is the world without the log. -/
def Shell.seen (rest : σ → τ) (s : Shell σ) : Shell τ := s.view rest id (List.filter fun e => !e.isAuditFailed)

/-- The recorder changes nothing but the log. -/
def Recorder.Keeps (rec : Recorder σ) (rest : σ → τ) : Prop :=
  ∀ path t w, rest (rec.store.append path t w).2 = rest w

theorem Shell.seen_note (rest : σ → τ) (s : Shell σ) {e : Event} (he : e.isAuditFailed = false) :
    (s.note e).seen rest = (s.seen rest).note e := by
  simp [seen, view, note, List.filter_append, he]

theorem Shell.seen_note_auditFailed (rest : σ → τ) (s : Shell σ) (e : Audit.LogError) :
    (s.note (.auditFailed e)).seen rest = s.seen rest := by
  simp [seen, view, note, List.filter_append, Event.isAuditFailed]

/-! ## One line -/

theorem record_seen {rec : Recorder σ} {rest : σ → τ} (hrec : rec.Keeps rest) (s : Session σ) (r : Audit.Record) :
    (s.record rec r).shell.seen rest = s.shell.seen rest := by
  have hworld {w : σ} (hw : rest w = rest s.shell.world) :
      ({ s.shell with world := w } : Shell σ).seen rest = s.shell.seen rest := by
    simp only [Shell.seen, Shell.view, hw]
  unfold Session.record
  cases s.logger with
  | none => rfl
  | some l =>
    have hlog : rest (l.log rec.store rec.hash r (rec.now s.shell.world) s.shell.world).2 = rest s.shell.world := by
      unfold Audit.Logger.log
      dsimp only
      split
      · rfl
      next t _ =>
        have happend := hrec l.path (t ++ [0x0A]) s.shell.world
        rcases hw : rec.store.append l.path (t ++ [0x0A]) s.shell.world with ⟨_ | f, w⟩ <;> rwa [hw] at happend
    dsimp only
    generalize l.log rec.store rec.hash r (rec.now s.shell.world) s.shell.world = logged at hlog ⊢
    rcases logged with ⟨e | l', w⟩
    · exact (Shell.seen_note_auditFailed rest _ e).trans (hworld hlog)
    · exact hworld hlog

variable {m : Machine σ} {n : Machine τ} {rest : σ → τ}

/-- A line up to its record is a line of the machine without the log, from what is seen. The journal goes on where it
was, so the run there begins with an empty one. -/
theorem attempt_seen (h : m.Hom n rest) (set : Settings) (line : Bytes) (s : Shell σ) :
    Prod.map id (Shell.seen rest) (attempt m set line s) =
      Prod.map id (Shell.view id id fun es => (s.seen rest).journal ++ es.filter fun e => !e.isAuditFailed)
        (attempt n set line { s.seen rest with journal := [] }) := by
  let fresh : Shell σ := { s with journal := [] }
  have hjournal := attempt_view line (Shell.hom_journal m set s.journal) fresh
  have hmachine := attempt_map set line h fresh
  have hs : fresh.view id id (s.journal ++ ·) = s := by
    simp only [fresh, Shell.view, id_eq, List.append_nil]
  rw [hs] at hjournal
  have hseen : ({ s.seen rest with journal := [] } : Shell τ) = fresh.map rest := rfl
  rw [hseen, hmachine, hjournal]
  generalize attempt m set line fresh = r
  refine Prod.ext rfl ?_
  simp [Shell.seen, Shell.view, List.filter_append]

/-- How a line ends that has come to something. -/
def Attempt.runEnd : Attempt → RunEnd
  | .skipped => .returned none none
  | .ended code => .terminated code
  | .crashed => .crashed
  | .done _ result error => .returned result error

theorem finish_seen {rec : Recorder σ} (hrec : rec.Keeps rest) (line : Bytes) (s : Session σ) (r : Attempt × Shell σ) :
    (Attempt.finish m line rec s r).1 = r.1.runEnd ∧
      (Attempt.finish m line rec s r).2.shell.seen rest = r.2.seen rest := by
  obtain ⟨a, shell⟩ := r
  cases a with
  | done commands result error => exact ⟨rfl, record_seen hrec { s with shell } _⟩
  | _ => exact ⟨rfl, rfl⟩

theorem runLine_seen (h : m.Hom n rest) (set : Settings) {rec rec' : Recorder σ} (hrec : rec.Keeps rest)
    (hrec' : rec'.Keeps rest) (line : Bytes) {s s' : Session σ} (hs : s.shell.seen rest = s'.shell.seen rest) :
    (runLine m set rec line s).1 = (runLine m set rec' line s').1 ∧
      (runLine m set rec line s).2.shell.seen rest = (runLine m set rec' line s').2.shell.seen rest := by
  have hattempt : Prod.map id (Shell.seen rest) (attempt m set line s.shell) =
      Prod.map id (Shell.seen rest) (attempt m set line s'.shell) := by
    rw [attempt_seen h, attempt_seen h, hs]
  rw [Prod.ext_iff, Prod.map_fst, Prod.map_fst, Prod.map_snd, Prod.map_snd] at hattempt
  obtain ⟨hend, hshell⟩ := finish_seen (m := m) hrec line s (attempt m set line s.shell)
  obtain ⟨hend', hshell'⟩ := finish_seen (m := m) hrec' line s' (attempt m set line s'.shell)
  rw [runLine_eq, runLine_eq, hend, hend', hshell, hshell']
  exact ⟨congrArg Attempt.runEnd hattempt.1, hattempt.2⟩

/-! ## The loop -/

theorem report_seen (colour : Colour) (error : Option LineError) {s s' : Session σ}
    (hs : s.shell.seen rest = s'.shell.seen rest) :
    (s.report colour error).shell.seen rest = (s'.report colour error).shell.seen rest := by
  cases error with
  | none => exact hs
  | some e =>
    unfold Session.report
    dsimp only
    split
    · exact hs
    · rw [Shell.seen_note rest _ rfl, Shell.seen_note rest _ rfl, hs]

/-- Two loops that are in the same state, but for the log. -/
structure Repl.Alike (rest : σ → τ) (r r' : Repl σ) : Prop where
  seen : r.session.shell.seen rest = r'.session.shell.seen rest
  status : r.status = r'.status
  promptFailed : r.promptFailed = r'.promptFailed

theorem Repl.handle_alike (h : m.Hom n rest) (set : Settings) {rec rec' : Recorder σ} (hrec : rec.Keeps rest)
    (hrec' : rec'.Keeps rest) (colour : Colour) (line : Bytes) {r r' : Repl σ} (hr : r.Alike rest r') :
    (Repl.handle m set rec colour line r).1 = (Repl.handle m set rec' colour line r').1 ∧
      (Repl.handle m set rec colour line r).2.Alike rest (Repl.handle m set rec' colour line r').2 := by
  obtain ⟨hend, hseen⟩ := runLine_seen h set hrec hrec' line hr.seen
  unfold Repl.handle
  generalize runLine m set rec line r.session = run at hend hseen ⊢
  generalize runLine m set rec' line r'.session = run' at hend hseen ⊢
  obtain ⟨e, s⟩ := run
  obtain ⟨_, s'⟩ := run'
  cases hend
  cases e with
  | terminated code => exact ⟨rfl, hseen, hr.status, hr.promptFailed⟩
  | crashed => exact ⟨rfl, hseen, hr.status, hr.promptFailed⟩
  | returned result error =>
    have hreport : (s.report colour error).shell.seen rest = (s'.report colour error).shell.seen rest :=
      report_seen colour error hseen
    dsimp only
    cases error.bind LineError.exitCode? with
    | some code => exact ⟨rfl, hreport, hr.status, hr.promptFailed⟩
    | none =>
      dsimp only
      rw [hr.status]
      exact ⟨rfl, hreport, rfl, hr.promptFailed⟩

/-! ## Sequences of lines -/

/-- Whether the shell has ended in the line. A line that exits the loop does not end the shell. -/
def HandleEnd.isOver : HandleEnd → Bool
  | .next _ => false
  | .done _ => false
  | _ => true

/-- Handles lines one after another. -/
def Repl.handleEach (m : Machine σ) (set : Settings) (rec : Recorder σ) (colour : Colour) (lines : List Bytes)
    (r : Repl σ) : List HandleEnd × Repl σ :=
  runEach (Repl.handle m set rec colour) HandleEnd.isOver lines r

/-- A step that goes the same way from related states goes the same way through all lines. -/
theorem runEach_related {α β ε : Type} {step : Bytes → α → ε × α} {step' : Bytes → β → ε × β} {isOver : ε → Bool}
    {R : α → β → Prop} (hstep : ∀ line a b, R a b → (step line a).1 = (step' line b).1 ∧ R (step line a).2 (step' line b).2)
    (lines : List Bytes) {a : α} {b : β} (hab : R a b) :
    (runEach step isOver lines a).1 = (runEach step' isOver lines b).1 ∧
      R (runEach step isOver lines a).2 (runEach step' isOver lines b).2 := by
  induction lines generalizing a b with
  | nil => exact ⟨rfl, hab⟩
  | cons line lines ih =>
    obtain ⟨hend, hnext⟩ := hstep line a b hab
    unfold runEach
    dsimp only
    rw [← hend]
    split
    · exact ⟨rfl, hnext⟩
    · obtain ⟨hends, hlast⟩ := ih hnext
      exact ⟨congrArg _ hends, hlast⟩

/-- Logging is not seen. Let `rest` be the world without the log, on which the machine works, and let two recorders
change nothing of it. From states that differ in the log alone, with any loggers or none, and whichever of their writes
fail, the same lines come to the same: every result, error and status, and in the end the rest of the world with the
working directory, and the journal with everything that was written, passed on and reported and every call of the exit
hook. -/
theorem log_unseen (h : m.Hom n rest) (set : Settings) {rec rec' : Recorder σ} (hrec : rec.Keeps rest)
    (hrec' : rec'.Keeps rest) (lines : List Bytes) :
    (∀ s s' : Session σ, s.shell.seen rest = s'.shell.seen rest →
      let run := runLines m set rec lines s
      let run' := runLines m set rec' lines s'
      run.1 = run'.1 ∧ run.2.shell.seen rest = run'.2.shell.seen rest ∧
        m.cwd run.2.shell.world = m.cwd run'.2.shell.world) ∧
    ∀ (colour : Colour) (r r' : Repl σ), r.Alike rest r' →
      let run := Repl.handleEach m set rec colour lines r
      let run' := Repl.handleEach m set rec' colour lines r'
      run.1 = run'.1 ∧ run.2.Alike rest run'.2 ∧
        m.cwd run.2.session.shell.world = m.cwd run'.2.session.shell.world := by
  -- the working directory is one of the rest of the world
  have hcwd {s s' : Shell σ} (hs : s.seen rest = s'.seen rest) : m.cwd s.world = m.cwd s'.world := by
    rw [← h.cwd, ← h.cwd]
    exact congrArg (fun t => n.cwd t.world) hs
  constructor
  · intro s s' hs
    obtain ⟨hends, hseen⟩ := runEach_related (R := fun s s' : Session σ => s.shell.seen rest = s'.shell.seen rest)
      (fun line _ _ => runLine_seen h set hrec hrec' line) lines hs
    exact ⟨hends, hseen, hcwd hseen⟩
  · intro colour r r' hr
    obtain ⟨hends, halike⟩ := runEach_related (R := Repl.Alike rest)
      (fun line _ _ => Repl.handle_alike h set hrec hrec' colour line) lines hr
    exact ⟨hends, halike, hcwd halike.seen⟩

/-- A recorder whose log is beside a world. -/
def Recorder.aside {α : Type} (rec : Recorder α) : Recorder (σ × α) where
  store := {
    makeParent := fun path w => Prod.map id (w.1, ·) (rec.store.makeParent path w.2)
    read := fun path w => rec.store.read path w.2
    append := fun path t w => Prod.map id (w.1, ·) (rec.store.append path t w.2) }
  hash := rec.hash
  now w := rec.now w.2

theorem Recorder.aside_keeps {α : Type} (rec : Recorder α) : (rec.aside : Recorder (σ × α)).Keeps Prod.fst :=
  fun _ _ _ => rfl

/-- A usage failure, a line that is not read, a change of directory and an exit come to the same without a log, with
one, and with one that cannot be written. With the log that can be written, there are four entries in it. -/
theorem log_unseen_three_runs :
    let m := Machine.walking.beside Audit.MemoryLog
    let keeper : Recorder (Bytes × Audit.MemoryLog) := { Recorder.memory.aside with hash := fun _ => [] }
    let lines := [text "cd a b", text "echo (", text "cd sub", text "exit 3"]
    let start (faults : Audit.Faults) (logger : Option Audit.Logger) : Repl (Bytes × Audit.MemoryLog) :=
      ⟨⟨{ world := (text "/", { faults }) }, logger⟩, 0, false⟩
    let logger := some ⟨text "log", .start keeper.hash⟩
    let without := Repl.handleEach m {} keeper .plain lines (start {} none)
    let logged := Repl.handleEach m {} keeper .plain lines (start {} logger)
    let refused := Repl.handleEach m {} keeper .plain lines (start { writing := true } logger)
    without.1 = logged.1 ∧ logged.1 = refused.1 ∧ without.2.Alike Prod.fst logged.2 ∧ logged.2.Alike Prod.fst refused.2 ∧
      logged.2.session.shell.world.2.content.map (fun c => (Audit.Log.records c).length) = some 4 := by
  intro m keeper lines start logger without logged refused
  have hkeeps : keeper.Keeps Prod.fst := Recorder.memory.aside_keeps
  have hpair := (log_unseen Machine.walking.fst_hom {} hkeeps hkeeps lines).2 .plain
  obtain ⟨hends, halike, -⟩ := hpair (start {} none) (start {} logger) ⟨rfl, rfl, rfl⟩
  obtain ⟨hends', halike', -⟩ := hpair (start {} logger) (start { writing := true } logger) ⟨rfl, rfl, rfl⟩
  refine ⟨hends, hends', halike, halike', ?_⟩
  decide +kernel

end AuditShell
