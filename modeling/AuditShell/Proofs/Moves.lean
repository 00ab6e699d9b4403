import AuditShell.Proofs.Deeds
import Mathlib.Logic.Relation
/-!
# A line, move by move

Whatever a shell does while it runs a line is one of a few moves: it takes in what has happened outside, it makes a
request of the machine, it changes what only it looks at, it notes something, it gets its streams, or it runs a
builtin (`Move`).

`moves_execute`: the run of a line is made of these moves, on every machine. So what is kept by each move is kept by
every run.
-/

namespace AuditShell

variable {σ : Type}

/-- The machine gets from one world to another by a request that is not a builtin's to make. -/
inductive Machine.Serves (m : Machine σ) : σ → σ → Prop where
  | openRead (file : Nat) (path : Bytes) (w : σ) : Serves m w (m.openRead file path w).2
  | openWrite (file : Nat) (append : Bool) (path : Bytes) (w : σ) : Serves m w (m.openWrite file append path w).2
  | closeFile (file : Nat) (w : σ) : Serves m w (m.closeFile file w)
  | makePipe (pipe : Nat) (w : σ) : Serves m w (m.makePipe pipe w).2
  | closeReader (pipe : Nat) (w : σ) : Serves m w (m.closeReader pipe w)
  | closeWriter (pipe : Nat) (w : σ) : Serves m w (m.closeWriter pipe w)
  | spawn (process : Nat) (launch : Launch) (w : σ) : Serves m w (m.spawn process launch w).2
  | kill (process : Nat) (w : σ) : Serves m w (m.kill process w)
  | reap (process : Nat) (w : σ) : Serves m w (m.reap process w).2
  | wake (process : Nat) (pending : Option Signal) (cancelled : Bool) (w : σ) :
      Serves m w (m.wake process pending cancelled w).2

/-- Whether an event neither calls a builtin nor says that something was written. -/
def Event.isMute : Event → Bool
  | .builtin _ _ => false
  | .wrote _ _ => false
  | _ => true

/-- One move of a shell. -/
inductive Move (m : Machine σ) (set : Settings) : Shell σ → Shell σ → Prop where
  | absorb (s : Shell σ) : Move m set s (s.absorb m set.capture)
  | request {s : Shell σ} {w : σ} (h : m.Serves s.world w) : Move m set s { s with world := w }
  | own (s : Shell σ) (interrupts : Interrupts) (foreground : List Nat) (fresh : Nat) :
      Move m set s { s with interrupts, foreground, fresh }
  | note (s : Shell σ) {e : Event} (he : e.isMute) : Move m set s (s.note e)
  | clear (s : Shell σ) : Move m set s { s with capturedOut := [], capturedErr := [] }
  | builtin (s : Shell σ) {c : Command} {b : Builtin} (hb : set.registry.lookup c.name = some b) :
      Move m set s (runAction m set (b.run c.args) (s.note (.builtin c.name c.args))).2

/-- Any number of moves. -/
abbrev Moves (m : Machine σ) (set : Settings) : Shell σ → Shell σ → Prop := Relation.ReflTransGen (Move m set)

section

variable {m : Machine σ} {set : Settings} {s t : Shell σ}

theorem Moves.step (h : Moves m set s t) {u : Shell σ} (hmove : Move m set t u) : Moves m set s u := h.tail hmove

theorem Moves.note (h : Moves m set s t) {e : Event} (he : e.isMute) : Moves m set s (t.note e) := h.step (.note t he)

theorem Moves.absorb (h : Moves m set s t) : Moves m set s (t.absorb m set.capture) := h.step (.absorb t)

theorem Moves.untrack (h : Moves m set s t) (process : Nat) : Moves m set s (t.untrack process) :=
  (h.step (.own t t.interrupts (t.foreground.erase process) t.fresh)).note rfl

theorem Moves.send (h : Moves m set s t) (sig : Signal) : Moves m set s (t.send sig).2 :=
  (h.step (.own t (t.interrupts.send sig).2 t.foreground t.fresh)).note rfl

/-- A request, for which the shell gives out a number or has other children. -/
theorem Moves.request (h : Moves m set s t) {w : σ} (hw : m.Serves t.world w) (foreground : List Nat) (fresh : Nat) :
    Moves m set s { t with world := w, foreground, fresh } :=
  (h.step (.request hw)).tail (.own _ t.interrupts foreground fresh)

end

section

variable (m : Machine σ) (set : Settings)

/-! ## Stages -/

theorem moves_openOutput (input : Option Nat) (r : Option Redirect) (s : Shell σ) :
    Moves m set s (openOutput m input r s).2 := by
  cases r with
  | none => exact .refl
  | some r =>
    have hserved := Machine.Serves.openWrite (m := m) s.fresh (r.kind = .append) r.path s.world
    unfold openOutput
    dsimp only
    generalize m.openWrite s.fresh (r.kind = .append) r.path s.world = answer at hserved ⊢
    have hrequest : Moves m set s { s with world := answer.2, fresh := s.fresh + 1 } :=
      Moves.request .refl hserved s.foreground (s.fresh + 1)
    obtain ⟨_ | e, w⟩ := answer
    · exact hrequest.note rfl
    · cases input with
      | none => exact hrequest
      | some file => exact (hrequest.step (.request (.closeFile file w))).note rfl

theorem moves_openRedirects (c : Command) (s : Shell σ) : Moves m set s (openRedirects m c s).2 := by
  unfold openRedirects
  split
  · exact .refl
  · split
    · exact moves_openOutput m set none c.output? s
    next r _ =>
      have hserved := Machine.Serves.openRead (m := m) s.fresh r.path s.world
      dsimp only
      generalize m.openRead s.fresh r.path s.world = answer at hserved ⊢
      have hrequest : Moves m set s { s with world := answer.2, fresh := s.fresh + 1 } :=
        Moves.request .refl hserved s.foreground (s.fresh + 1)
      obtain ⟨_ | e, w⟩ := answer
      · exact (hrequest.note rfl).trans (moves_openOutput m set _ _ _)
      · exact hrequest

theorem moves_spawnStage (c : Command) (stdin : Source) (stdout : Sink) (files : List Nat) (p : Plumbing) (s : Shell σ) :
    Moves m set s (spawnStage m c stdin stdout files p s).2.2 := by
  have hserved := Machine.Serves.spawn (m := m) s.fresh ⟨c.words, stdin, stdout, .err⟩ s.world
  unfold spawnStage
  dsimp only
  generalize m.spawn s.fresh ⟨c.words, stdin, stdout, .err⟩ s.world = answer at hserved ⊢
  have hrequest (foreground : List Nat) : Moves m set s { s with world := answer.2, foreground, fresh := s.fresh + 1 } :=
    Moves.request .refl hserved foreground (s.fresh + 1)
  obtain ⟨_ | e, w⟩ := answer
  · exact (hrequest (s.foreground ++ [s.fresh])).note rfl
  · exact hrequest s.foreground

theorem moves_startCommand (c : Command) (stdin : Source) (stdout : Sink) (p : Plumbing) (s : Shell σ) :
    Moves m set s (startCommand m set c stdin stdout p s).2.2 := by
  have hopened := moves_openRedirects m set c s
  unfold startCommand
  generalize openRedirects m c s = r at hopened ⊢
  obtain ⟨f | o, t⟩ := r
  · exact hopened
  cases hb : set.registry.lookup c.name with
  | none => exact hopened.trans (moves_spawnStage m set c _ _ o.files p t)
  | some b =>
    have hran := hopened.step (.builtin t hb)
    dsimp only at hran ⊢
    generalize runAction m set (b.run c.args) (t.note (.builtin c.name c.args)) = r at hran ⊢
    obtain ⟨(_ | f) | code, u⟩ := r <;> exact hran

theorem moves_handOver (writer : Option Nat) (p : Plumbing) (s : Shell σ) :
    Moves m set s (handOver m writer p s).2 := by
  have hreader (q : Nat) {t : Shell σ} (h : Moves m set s t) : Moves m set s (t.closeReader m q) :=
    (h.step (.request (.closeReader q t.world))).note rfl
  have hwriter (q : Nat) : Moves m set s (s.closeWriter m q) := Moves.note (.single (.request (.closeWriter q s.world))) rfl
  unfold handOver
  cases writer with
  | none =>
    cases p.reader with
    | none => exact .refl
    | some q => exact hreader q .refl
  | some w =>
    cases p.reader with
    | none => exact hwriter w
    | some q => exact hreader q (hwriter w)

theorem moves_passOn (writer : Option Nat) {s : Shell σ} {r : StageEnd × Plumbing × Shell σ} (h : Moves m set s r.2.2) :
    Moves m set s (passOn m writer r).2.2 := by
  obtain ⟨e, p, t⟩ := r
  cases e with
  | started => exact h.trans (moves_handOver m set writer p t)
  | failed f => exact h.trans (moves_handOver m set writer p t)
  | terminated code => exact h

theorem moves_startStage (last : Bool) (c : Command) (p : Plumbing) (s : Shell σ) :
    Moves m set s (startStage m set last c p s).2.2 := by
  rw [startStage_eq]
  split
  · exact moves_passOn m set none (moves_startCommand m set c _ _ p s)
  · have hserved := Machine.Serves.makePipe (m := m) s.fresh s.world
    generalize m.makePipe s.fresh s.world = answer at hserved ⊢
    have hrequest : Moves m set s { s with world := answer.2, fresh := s.fresh + 1 } :=
      Moves.request .refl hserved s.foreground (s.fresh + 1)
    obtain ⟨_ | e, w⟩ := answer
    · exact moves_passOn m set (some s.fresh) ((hrequest.note rfl).trans (moves_startCommand m set c _ _ p _))
    · exact hrequest

theorem moves_startStages (cs : Stages) (p : Plumbing) (s : Shell σ) :
    Moves m set s (startStages m set cs p s).2.2 := by
  induction cs generalizing p s with
  | nil => exact .refl
  | cons c cs ih =>
    cases c with
    | none => exact .refl
    | some c =>
      unfold startStages
      dsimp only
      split
      · exact .refl
      · have hstage := moves_startStage m set cs.isEmpty c p s
        generalize startStage m set cs.isEmpty c p s = r at hstage ⊢
        obtain ⟨_ | f | code, q, t⟩ := r
        · exact hstage.trans (ih q t)
        · exact hstage
        · exact hstage

/-! ## Waits -/

theorem moves_reapAll (ps : List Nat) (s : Shell σ) : Moves m set s (reapAll m set ps s) := by
  induction ps generalizing s with
  | nil => exact .refl
  | cons p ps ih =>
    have hkilled : Moves m set s { s with world := m.kill p s.world } := .single (.request (.kill p s.world))
    have hreaped := hkilled.step (.request (.reap p (m.kill p s.world)))
    unfold reapAll
    exact (hreaped.absorb.untrack p).trans (ih _)

theorem moves_killForeground (s : Shell σ) : Moves m set s (s.killForeground m) := by
  have hfold (ps : List Nat) (w : σ) :
      Moves m set { s with world := w } { s with world := ps.foldl (fun w p => m.kill p w) w } := by
    induction ps generalizing w with
    | nil => exact .refl
    | cons p ps ih => exact .head (.request (.kill p w)) (ih _)
  exact hfold s.foreground s.world

theorem moves_killAndReap (process : Nat) (s : Shell σ) : Moves m set s (killAndReap m set process s) := by
  rw [killAndReap_eq]
  have hreaped := (moves_killForeground m set s).step (.request (.reap process (s.killForeground m).world))
  exact hreaped.absorb.untrack process

theorem moves_afterWake (process : Nat) (view : WakeView) (s : Shell σ) :
    Moves m set s (afterWake m set process view s).2 := by
  have htaken : Moves m set s { s with interrupts := s.interrupts.receive.2 } :=
    .single (.own s s.interrupts.receive.2 s.foreground s.fresh)
  match view with
  | .exit r => exact (Moves.absorb .refl).untrack process
  | .signal sig (some r) => exact (htaken.absorb.untrack process).send sig
  | .signal sig none =>
    exact (htaken.absorb.note (e := .interrupt sig process) rfl).trans (moves_killAndReap m set process _)
  | .cancel => exact (Moves.note .refl (e := .cancelled process) rfl).trans (moves_killAndReap m set process _)

theorem moves_await (process : Nat) (s : Shell σ) : Moves m set s (await m set process s).2 := by
  rw [await_eq]
  have habsorbed : Moves m set s (s.absorb m set.capture) := Moves.absorb .refl
  exact (habsorbed.step (.request (.wake process _ _ _))).trans (moves_afterWake m set process _ _)

theorem moves_awaitAll (ps : List Nat) (last : Option Ended) (s : Shell σ) :
    Moves m set s (awaitAll m set ps last s).2 := by
  induction ps generalizing last s with
  | nil => exact .refl
  | cons p ps ih =>
    have hawait := moves_await m set p s
    unfold awaitAll
    generalize await m set p s = r at hawait ⊢
    obtain ⟨f | e, t⟩ := r
    · exact hawait.trans (moves_reapAll m set ps t)
    · exact hawait.trans (ih (some e) t)

theorem moves_closeAll (p : Plumbing) (s : Shell σ) : Moves m set s (closeAll m p s) := by
  have hfiles (files : List Nat) (s : Shell σ) : Moves m set s (files.foldl (fun s file => s.closeFile m file) s) := by
    induction files generalizing s with
    | nil => exact .refl
    | cons file files ih =>
      have hclosed : Moves m set s (s.closeFile m file) := Moves.note (.single (.request (.closeFile file s.world))) rfl
      exact hclosed.trans (ih _)
  unfold closeAll
  cases p.reader with
  | none => exact hfiles p.files s
  | some q =>
    have hclosed : Moves m set s (s.closeReader m q) := Moves.note (.single (.request (.closeReader q s.world))) rfl
    exact hclosed.trans (hfiles p.files _)

/-! ## Pipelines and lines -/

theorem moves_runStages (cs : Stages) (s : Shell σ) : Moves m set s (runStages m set cs s).2 := by
  have hstages := moves_startStages m set cs {} s
  unfold runStages
  generalize startStages m set cs {} s = r at hstages ⊢
  obtain ⟨_ | f | code, p, t⟩ := r
  · have hwaits := moves_awaitAll m set p.processes none t
    dsimp only
    generalize awaitAll m set p.processes none t = r at hwaits ⊢
    obtain ⟨f | last, u⟩ := r
    · exact (hstages.trans hwaits).trans (moves_closeAll m set p u)
    · exact (hstages.trans hwaits).trans (moves_closeAll m set p u)
  · exact (hstages.trans (moves_reapAll m set p.processes t)).trans (moves_closeAll m set p _)
  · exact hstages

theorem moves_runPipeline (p : Option Stages) (s : Shell σ) : Moves m set s (runPipeline m set p s).2 := by
  match p with
  | none => exact .refl
  | some [] => exact .refl
  | some (c :: cs) =>
    cases hp : Stages.pipeline? (c :: cs) with
    | none =>
      simp only [runPipeline, hp]
      exact .refl
    | some pipeline =>
      simp only [runPipeline, hp]
      exact (Moves.note .refl (e := .pipeline (Pipeline.render pipeline)) rfl).trans (moves_runStages m set (c :: cs) _)

theorem Event.isMute_of_recoverable {f : Failure} {r : Int × Event} (h : recoverable f = some r) : r.2.isMute := by
  rcases recoverable_cases h with ⟨-, rfl⟩ | ⟨-, -, rfl⟩
  · rfl
  · rfl

theorem moves_runSequence (ps : List (Option Stages)) (code : Int) (s : Shell σ) :
    Moves m set s (runSequence m set ps code s).2 := by
  induction ps generalizing code s with
  | nil => exact .refl
  | cons p ps ih =>
    have hpipeline := moves_runPipeline m set p s
    unfold runSequence
    generalize runPipeline m set p s = r at hpipeline ⊢
    obtain ⟨n | f | code' | _, t⟩ := r
    · exact hpipeline.trans (ih n t)
    · dsimp only
      cases hr : recoverable f with
      | none => exact hpipeline
      | some r => exact (hpipeline.note (Event.isMute_of_recoverable hr)).trans (ih r.1 _)
    · exact hpipeline
    · exact hpipeline

/-- The run of a line is made of moves, from when its streams are ready. -/
theorem moves_execute (d : Draft) (s : Shell σ) : Moves m set (s.ready m set) (execute m set d s).2 := by
  cases hd : d.pipelines with
  | error c =>
    rw [Draft.execute_error m set hd]
  | ok ps =>
    rw [Draft.execute_eq m set hd]
    exact .head (.clear (s.ready m set)) (moves_runSequence m set ps 0 _)

end

end AuditShell
