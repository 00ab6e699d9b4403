import AuditShell.Proofs.Machine
import Mathlib.Logic.Relation
/-!
# A line, step by step

What a line does on the way from its start to its end, in steps that are as small as the interrupt slot and
the streams of the line can tell apart. Anything else that goes on may come between any two steps: a signal is
sent, a child writes (`Step`).

An account is kept beside the shell. It numbers the signals that the slot takes up, and follows each of them to
the wait that it ends. `execute_steps`: whatever the machine does, the run of a line is made of these steps. So
what holds after every step holds of every run.
-/

namespace AuditShell

variable {σ : Type}

/-! ## The account of signals -/

/-- A signal that the slot has taken up: how many it had taken up before, and the pipeline that was running. -/
structure Delivery where
  signal : Signal
  number : Nat
  during : Option Nat
  deriving DecidableEq, Repr

/-- A wait that was ended by a signal: the pipeline, and what the slot held when the pipeline was started. -/
structure Hit where
  delivery : Delivery
  pipeline : Nat
  atStart : Option Delivery
  deriving DecidableEq, Repr

/-- Where a line stands. -/
inductive Phase where
  /-- Signals of earlier lines are dropped, so many by now. -/
  | draining (dropped : Nat)
  /-- The slot was empty, and the line has no streams yet. -/
  | ready
  /-- No pipeline is running. -/
  | between
  /-- A pipeline is running, and no process is waited for. -/
  | running
  /-- A builtin has asked for an exit, and what was collected on these streams is to be passed on before. -/
  | exiting (code : Int) (streams : List Stream)
  | waiting (process : Nat)
  /-- The wait has taken a signal, and has to look once more whether the process has ended. -/
  | holding (process : Nat) (d : Delivery)
  /-- The process had ended, and the signal has to be given back. -/
  | returning (d : Delivery) (r : Except Failure Ended)
  /-- The pipeline has failed, and its children are killed. -/
  | failed

namespace Phase

/-- Whether a pipeline is running. -/
def inFlight : Phase → Bool
  | draining _ => false
  | ready => false
  | between => false
  | _ => true

/-- The signal that a wait has taken and neither reported nor given back. -/
def hand? : Phase → Option Delivery
  | holding _ d => some d
  | returning d _ => some d
  | _ => none

/-- Where the line stands after a wait with this result. -/
def afterWait : Except Failure Ended → Phase
  | .ok _ => running
  | .error _ => failed

@[simp] theorem hand?_returning (d : Delivery) (r : Except Failure Ended) : (returning d r).hand? = some d := rfl

@[simp] theorem hand?_afterWait (r : Except Failure Ended) : (afterWait r).hand? = none := by
  cases r <;> rfl

end Phase

/-- What is known about the signals of a line since those of earlier lines were dropped. -/
structure Account where
  /-- How many pipelines were started. -/
  begun : Nat := 0
  /-- What the slot has taken up from senders, in order. -/
  delivered : List Delivery := []
  slot : Option Delivery := none
  /-- What the slot held when the last pipeline was started. -/
  carried : Option Delivery := none
  hits : List Hit := []
  /-- The signals that were given back while another one was in the slot. -/
  merged : List Delivery := []
  deriving DecidableEq, Repr

namespace Account

/-- The account where nothing is known but what the slot holds. -/
def before (i : Interrupts) : Account := { slot := i.pending?.map fun sig => ⟨sig, 0, none⟩ }

/-- A sender has sent a signal. -/
def sent (phase : Phase) (sig : Signal) (delivered : Bool) (a : Account) : Account :=
  let d : Delivery := ⟨sig, a.delivered.length, if phase.inFlight then some a.begun else none⟩
  if delivered then { a with delivered := a.delivered ++ [d], slot := some d } else a

/-- A signal was given back. -/
def giveBack (d : Delivery) (delivered : Bool) (a : Account) : Account :=
  if delivered then { a with slot := some d } else { a with merged := a.merged ++ [d] }

/-- A pipeline is started. -/
def start (a : Account) : Account := { a with begun := a.begun + 1, carried := a.slot }

/-- A wait reports that a signal has ended it. -/
def hit (d : Delivery) (a : Account) : Account := { a with hits := a.hits ++ [⟨d, a.begun, a.carried⟩] }

section

variable (d : Delivery) (delivered : Bool) (a : Account)

@[simp] theorem giveBack_begun : (a.giveBack d delivered).begun = a.begun := by cases delivered <;> rfl

@[simp] theorem giveBack_delivered : (a.giveBack d delivered).delivered = a.delivered := by cases delivered <;> rfl

@[simp] theorem giveBack_carried : (a.giveBack d delivered).carried = a.carried := by cases delivered <;> rfl

@[simp] theorem giveBack_hits : (a.giveBack d delivered).hits = a.hits := by cases delivered <;> rfl

end

end Account

/-! ## Steps -/

/-- A line at a moment. -/
structure Moment (σ : Type) where
  phase : Phase
  shell : Shell σ
  account : Account

/-- The start of a line. -/
def Moment.start (s : Shell σ) : Moment σ := ⟨.draining 0, s, .before s.interrupts⟩

/-- The two shells have the same slot, the same collected output and the same journal. -/
structure Shell.Alike (s s' : Shell σ) : Prop where
  interrupts : s'.interrupts = s.interrupts
  out : s'.capturedOut = s.capturedOut
  err : s'.capturedErr = s.capturedErr
  journal : s'.journal = s.journal

/-- Whether an event is noted while a line runs and is about neither signals nor streams, and neither about
the beginning of a pipeline nor about the end of a wait. -/
def Event.isAside : Event → Bool
  | .opened _ _ => true
  | .closed _ => true
  | .piped _ => true
  | .readerClosed _ => true
  | .writerClosed _ => true
  | .builtin _ _ => true
  | .spawned _ _ => true
  | .killed _ => true
  | .builtinFailed _ => true
  | .pipelineInterrupted _ => true
  | _ => false

/-- The streams whose collected output is passed on before an exit, in order. -/
def Settings.flushing (set : Settings) : List Stream :=
  (if set.capture && set.flushOut then [.out] else []) ++ if set.capture && set.flushErr then [.err] else []

/-- One step of a line. -/
inductive Step (set : Settings) : Moment σ → Moment σ → Prop where
  /-- A request of the machine, or a change of what only the shell itself looks at. -/
  | silent {phase s s' a} (h : s.Alike s') : Step set ⟨phase, s, a⟩ ⟨phase, s', a⟩
  | note {phase s a} (e : Event) (he : e.isAside) : Step set ⟨phase, s, a⟩ ⟨phase, s.note e, a⟩
  /-- A child or a builtin writes. -/
  | wrote {phase s a} (stream : Stream) (bytes : Bytes) :
      Step set ⟨phase, s, a⟩ ⟨phase, s.write set.capture stream bytes, a⟩
  /-- A sender sends a signal. -/
  | sent {phase s a} (sig : Signal) : Step set ⟨phase, s, a⟩ ⟨phase, (s.send sig).2, a.sent phase sig (s.send sig).1⟩
  /-- A signal of an earlier line is dropped. -/
  | drop {k s a} (h : s.interrupts.pending?.isSome) :
      Step set ⟨.draining k, s, a⟩
        ⟨.draining (k + 1), { s with interrupts := s.interrupts.receive.2 }, { a with slot := none }⟩
  /-- No signal is left to be dropped. -/
  | drained {k s a} (h : s.interrupts.pending? = none) :
      Step set ⟨.draining k, s, a⟩ ⟨.ready, if k = 0 then s else s.note (.dropped k), {}⟩
  /-- The line gets its streams. -/
  | clear {s a} : Step set ⟨.ready, s, a⟩ ⟨.between, { s with capturedOut := [], capturedErr := [] }, a⟩
  | start {s a} (line : Bytes) : Step set ⟨.between, s, a⟩ ⟨.running, s.note (.pipeline line), a.start⟩
  /-- A builtin asks for an exit. -/
  | exit {s a} (code : Int) : Step set ⟨.running, s, a⟩ ⟨.exiting code set.flushing, s, a⟩
  /-- What was collected on a stream is passed on. -/
  | flush {s a code stream streams} :
      Step set ⟨.exiting code (stream :: streams), s, a⟩ ⟨.exiting code streams, s.flushStream stream, a⟩
  /-- The exit hook is called. -/
  | hook {s a code} : Step set ⟨.exiting code [], s, a⟩ ⟨.running, s.note (.exitHook code), a⟩
  | wait {s a} (process : Nat) : Step set ⟨.running, s, a⟩ ⟨.waiting process, s, a⟩
  /-- The wait sees the end of the process. -/
  | ended {s a process} (r : Except Failure Ended) :
      Step set ⟨.waiting process, s, a⟩ ⟨.afterWait r, s.untrack process, a⟩
  /-- The wait takes the signal out of the slot. -/
  | take {s a process} (d : Delivery) (hs : s.interrupts.pending? = some d.signal) (ha : a.slot = some d) :
      Step set ⟨.waiting process, s, a⟩
        ⟨.holding process d, { s with interrupts := s.interrupts.receive.2 }, { a with slot := none }⟩
  /-- The wait has looked once more and sees the end of the process. -/
  | found {s a process d} (r : Except Failure Ended) :
      Step set ⟨.holding process d, s, a⟩ ⟨.returning d r, s.untrack process, a⟩
  | giveBack {s a d r} :
      Step set ⟨.returning d r, s, a⟩
        ⟨.afterWait r, (s.send d.signal).2, a.giveBack d (s.send d.signal).1⟩
  /-- The process is still running, and the wait reports the signal. -/
  | interrupt {s a process d} :
      Step set ⟨.holding process d, s, a⟩ ⟨.failed, s.note (.interrupt d.signal process), a.hit d⟩
  | cancelled {s a process} : Step set ⟨.waiting process, s, a⟩ ⟨.failed, s.note (.cancelled process), a⟩
  /-- A stage cannot be started. -/
  | fail {s a} : Step set ⟨.running, s, a⟩ ⟨.failed, s, a⟩
  /-- A child was killed and waited for. -/
  | reaped {s a} (process : Nat) : Step set ⟨.failed, s, a⟩ ⟨.failed, s.untrack process, a⟩
  | finish {phase s a} (h : phase = .running ∨ phase = .failed) : Step set ⟨phase, s, a⟩ ⟨.between, s, a⟩

/-- Any number of steps. -/
abbrev Steps (set : Settings) : Moment σ → Moment σ → Prop := Relation.ReflTransGen (Step set)

/-- The account knows what is in the slot. -/
def Moment.Synced (x : Moment σ) : Prop := x.shell.interrupts.pending? = x.account.slot.map Delivery.signal

/-! ### What a step does to the slot -/

namespace Interrupts

variable (i : Interrupts) (sig : Signal)

@[simp] theorem pending?_receive : i.receive.2.pending? = none := by cases i <;> rfl

theorem pending?_send_of_delivered (h : (i.send sig).1 = true) : (i.send sig).2.pending? = some sig := by
  match i with
  | .missing => cases h
  | .slot none => rfl
  | .slot (some t) => cases h

theorem pending?_of_delivered (h : (i.send sig).1 = true) : i.pending? = none := by
  match i with
  | .missing => rfl
  | .slot none => rfl
  | .slot (some t) => cases h

theorem send_of_refused (h : (i.send sig).1 = false) : (i.send sig).2 = i := by
  match i with
  | .missing => rfl
  | .slot none => cases h
  | .slot (some t) => rfl

theorem send_ne_missing (h : i ≠ .missing) : (i.send sig).2 ≠ .missing := by
  match i with
  | .missing => exact absurd rfl h
  | .slot none => exact nofun
  | .slot (some t) => exact nofun

end Interrupts

namespace Shell

@[simp] theorem note_interrupts (e : Event) (s : Shell σ) : (s.note e).interrupts = s.interrupts := rfl

@[simp] theorem untrack_interrupts (process : Nat) (s : Shell σ) : (s.untrack process).interrupts = s.interrupts := rfl

@[simp] theorem send_interrupts (sig : Signal) (s : Shell σ) : (s.send sig).2.interrupts = (s.interrupts.send sig).2 := rfl

@[simp] theorem send_delivered (sig : Signal) (s : Shell σ) : (s.send sig).1 = (s.interrupts.send sig).1 := rfl

@[simp] theorem write_interrupts (capture : Bool) (stream : Stream) (bytes : Bytes) (s : Shell σ) :
    (s.write capture stream bytes).interrupts = s.interrupts := by
  unfold write
  split
  · rfl
  · cases capture <;> cases stream <;> rfl

@[simp] theorem flushStream_interrupts (stream : Stream) (s : Shell σ) :
    (s.flushStream stream).interrupts = s.interrupts := by
  cases stream <;> rfl

theorem flush_eq (set : Settings) (s : Shell σ) :
    s.flush set = set.flushing.foldl (fun s stream => s.flushStream stream) s := by
  unfold flush Settings.flushing
  cases set.capture && set.flushOut <;> cases set.capture && set.flushErr <;> rfl

end Shell

theorem Step.synced {set : Settings} {x y : Moment σ} (h : Step set x y) (hx : x.Synced) : y.Synced := by
  unfold Moment.Synced at hx ⊢
  cases h with
  | silent hs =>
    dsimp only at hx ⊢
    rw [hs.interrupts, hx]
  | @sent phase s a sig =>
    dsimp only at hx ⊢
    rw [Shell.send_interrupts, Shell.send_delivered]
    cases hd : (s.interrupts.send sig).1 with
    | true => rw [Interrupts.pending?_send_of_delivered _ _ hd]; rfl
    | false => rw [Interrupts.send_of_refused _ _ hd, hx]; rfl
  | @giveBack s a d r =>
    dsimp only at hx ⊢
    rw [Shell.send_interrupts, Shell.send_delivered]
    cases hd : (s.interrupts.send d.signal).1 with
    | true => rw [Interrupts.pending?_send_of_delivered _ _ hd]; rfl
    | false => rw [Interrupts.send_of_refused _ _ hd, hx]; rfl
  | drained h =>
    dsimp only at h ⊢
    split
    · exact h
    · exact h
  | drop h => simp
  | take d hs ha => simp
  | wrote stream bytes => simpa using hx
  | flush => simpa using hx
  | _ => exact hx

theorem Steps.synced {set : Settings} {x y : Moment σ} (h : Steps set x y) (hx : x.Synced) : y.Synced := by
  induction h with
  | refl => exact hx
  | tail _ hstep ih => exact hstep.synced ih

theorem Moment.synced_before (phase : Phase) (s : Shell σ) : (⟨phase, s, .before s.interrupts⟩ : Moment σ).Synced := by
  unfold Moment.Synced Account.before
  cases s.interrupts.pending? <;> rfl

/-- From one shell to another there are steps, whatever the account is. -/
def Goes (set : Settings) (phase : Phase) (s : Shell σ) (phase' : Phase) (s' : Shell σ) : Prop :=
  ∀ a, (⟨phase, s, a⟩ : Moment σ).Synced → ∃ a', Steps set ⟨phase, s, a⟩ ⟨phase', s', a'⟩

namespace Goes

variable {set : Settings} {p p' p'' : Phase} {s s' s'' : Shell σ}

theorem refl (set : Settings) (p : Phase) (s : Shell σ) : Goes set p s p s := fun a _ => ⟨a, .refl⟩

theorem trans (h : Goes set p s p' s') (h' : Goes set p' s' p'' s'') : Goes set p s p'' s'' := by
  intro a ha
  obtain ⟨b, hb⟩ := h a ha
  obtain ⟨c, hc⟩ := h' b (hb.synced ha)
  exact ⟨c, hb.trans hc⟩

theorem of_step (f : Account → Account) (h : ∀ a, Step set ⟨p, s, a⟩ ⟨p', s', f a⟩) : Goes set p s p' s' :=
  fun a _ => ⟨f a, .single (h a)⟩

theorem silent (h : s.Alike s') : Goes set p s p s' := of_step id fun _ => .silent h

theorem note (e : Event) (he : e.isAside) : Goes set p s p (s.note e) := of_step id fun _ => .note e he

end Goes

section

variable (m : Machine σ) (set : Settings)

theorem Shell.goes_happen (phase : Phase) (h : Happening) (s : Shell σ) :
    Goes set phase s phase (s.happen set.capture h) := by
  cases h with
  | wrote stream bytes => exact .of_step id fun _ => .wrote stream bytes
  | sent sig => exact .of_step _ fun _ => .sent sig
  | cancelled => exact .silent ⟨rfl, rfl, rfl, rfl⟩

theorem Shell.goes_absorb (phase : Phase) (s : Shell σ) : Goes set phase s phase (s.absorb m set.capture) := by
  unfold absorb
  have hfold (hs : List Happening) (t : Shell σ) :
      Goes set phase t phase (hs.foldl (happen set.capture) t) := by
    induction hs generalizing t with
    | nil => exact .refl set phase t
    | cons h hs ih => exact (t.goes_happen set phase h).trans (ih _)
  have hworld : Goes set phase s phase { s with world := (m.meanwhile s.world).2 } := .silent ⟨rfl, rfl, rfl, rfl⟩
  exact hworld.trans (hfold (m.meanwhile s.world).1 _)

theorem Shell.goes_exit (code : Int) (s : Shell σ) :
    Goes set .running s .running ((s.flush set).note (.exitHook code)) := by
  have hflush (streams : List Stream) (t : Shell σ) : Goes set (.exiting code streams) t (.exiting code [])
      (streams.foldl (fun s stream => s.flushStream stream) t) := by
    induction streams generalizing t with
    | nil => exact .refl set _ t
    | cons stream streams ih => exact (Goes.of_step id fun _ => .flush).trans (ih (t.flushStream stream))
  have hexit : Goes set .running s (.exiting code set.flushing) s := .of_step id fun _ => .exit code
  rw [flush_eq]
  exact (hexit.trans (hflush set.flushing s)).trans (.of_step id fun _ => .hook)

theorem goes_runAction (act : Action) (s : Shell σ) : Goes set .running s .running (runAction m set act s).2 := by
  induction act generalizing s with
  | finish failure => exact .refl set .running s
  | complain b k ih =>
    have hwrote := (s.goes_absorb m set .running).trans (.of_step id fun _ => .wrote .err b)
    exact hwrote.trans (ih _)
  | exit code k ih =>
    have hexit := (s.goes_absorb m set .running).trans (Shell.goes_exit set code _)
    unfold runAction
    cases set.hook with
    | returns => exact hexit.trans (ih _)
    | terminates => exact hexit
  | changeDir path k ih =>
    have hworld : Goes set .running s .running { s with world := (m.chdir path s.world).2 } :=
      .silent ⟨rfl, rfl, rfl, rfl⟩
    exact hworld.trans (ih (m.chdir path s.world).1 _)
  | send sig k ih =>
    have hsent := (s.goes_absorb m set .running).trans (.of_step _ fun _ => .sent sig)
    exact hsent.trans (ih _ _)
  | killAll k ih =>
    have hkilled : Goes set .running s .running (s.killForeground m) := .silent ⟨rfl, rfl, rfl, rfl⟩
    exact (hkilled.trans (.note (.killed s.foreground.length) rfl)).trans (ih _ _)
  | cancel k ih =>
    have hcancelled : Goes set .running s .running { s with cancelled := true } := .silent ⟨rfl, rfl, rfl, rfl⟩
    exact hcancelled.trans (ih _)

theorem Goes.requested (phase : Phase) (s : Shell σ) (w : σ) (k : Nat) (fg : List Nat) (e : Event)
    (he : e.isAside) :
    Goes set phase s phase (({ s with world := w, fresh := k, foreground := fg } : Shell σ).note e) := by
  have hrequest : Goes set phase s phase { s with world := w, fresh := k, foreground := fg } :=
    .silent ⟨rfl, rfl, rfl, rfl⟩
  exact hrequest.trans (.note e he)

theorem goes_openOutput (phase : Phase) (input : Option Nat) (r : Option Redirect) (s : Shell σ) :
    Goes set phase s phase (openOutput m input r s).2 := by
  cases r with
  | none => exact .refl set phase s
  | some r =>
    unfold openOutput
    dsimp only
    rcases m.openWrite s.fresh (r.kind = .append) r.path s.world with ⟨_ | e, w⟩
    · exact .requested set phase s w (s.fresh + 1) s.foreground (.opened s.fresh r) rfl
    · cases input with
      | none => exact .silent ⟨rfl, rfl, rfl, rfl⟩
      | some file => exact .requested set phase s (m.closeFile file w) (s.fresh + 1) s.foreground (.closed file) rfl

theorem goes_openRedirects (phase : Phase) (c : Command) (s : Shell σ) :
    Goes set phase s phase (openRedirects m c s).2 := by
  unfold openRedirects
  split
  · exact .refl set phase s
  · split
    · exact goes_openOutput m set phase none c.output? s
    next r _ =>
      dsimp only
      rcases m.openRead s.fresh r.path s.world with ⟨_ | e, w⟩
      · have hopened := Goes.requested set phase s w (s.fresh + 1) s.foreground (.opened s.fresh r) rfl
        exact hopened.trans (goes_openOutput m set phase _ _ _)
      · exact .silent ⟨rfl, rfl, rfl, rfl⟩

theorem goes_startCommand (c : Command) (stdin : Source) (stdout : Sink) (p : Plumbing) (s : Shell σ) :
    Goes set .running s .running (startCommand m set c stdin stdout p s).2.2 := by
  have hopened := goes_openRedirects m set .running c s
  unfold startCommand
  generalize openRedirects m c s = r at hopened ⊢
  obtain ⟨f | o, t⟩ := r
  · exact hopened
  cases set.registry.lookup c.name with
  | none =>
    unfold spawnStage
    dsimp only
    rcases m.spawn t.fresh _ t.world with ⟨_ | e, w⟩
    · exact hopened.trans (.requested set .running t w (t.fresh + 1) (t.foreground ++ [t.fresh]) _ rfl)
    · exact hopened.trans (.silent ⟨rfl, rfl, rfl, rfl⟩)
  | some b =>
    have hran := (hopened.trans (.note (.builtin c.name c.args) rfl)).trans (goes_runAction m set (b.run c.args) _)
    dsimp only at hran ⊢
    generalize runAction m set (b.run c.args) (t.note (.builtin c.name c.args)) = r at hran ⊢
    obtain ⟨(_ | f) | code, u⟩ := r
    · exact hran
    · exact hran
    · exact hran

theorem goes_handOver (phase : Phase) (writer : Option Nat) (p : Plumbing) (s : Shell σ) :
    Goes set phase s phase (handOver m writer p s).2 := by
  have hreader (q : Nat) (t : Shell σ) : Goes set phase t phase (t.closeReader m q) :=
    .requested set phase t (m.closeReader q t.world) t.fresh t.foreground (.readerClosed q) rfl
  have hwriter (q : Nat) : Goes set phase s phase (s.closeWriter m q) :=
    .requested set phase s (m.closeWriter q s.world) s.fresh s.foreground (.writerClosed q) rfl
  unfold handOver
  cases writer with
  | none =>
    cases p.reader with
    | none => exact .refl set phase s
    | some q => exact hreader q s
  | some w =>
    cases p.reader with
    | none => exact hwriter w
    | some q => exact (hwriter w).trans (hreader q _)

theorem goes_passOn (writer : Option Nat) {s : Shell σ} {r : StageEnd × Plumbing × Shell σ}
    (h : Goes set .running s .running r.2.2) : Goes set .running s .running (passOn m writer r).2.2 := by
  obtain ⟨e, p, t⟩ := r
  cases e with
  | started => exact h.trans (goes_handOver m set .running writer p t)
  | failed f => exact h.trans (goes_handOver m set .running writer p t)
  | terminated code => exact h

theorem goes_startStage (last : Bool) (c : Command) (p : Plumbing) (s : Shell σ) :
    Goes set .running s .running (startStage m set last c p s).2.2 := by
  rw [startStage_eq]
  split
  · exact goes_passOn m set none (goes_startCommand m set c _ _ p s)
  · rcases m.makePipe s.fresh s.world with ⟨_ | e, w⟩
    · have hpiped := Goes.requested set .running s w (s.fresh + 1) s.foreground (.piped s.fresh) rfl
      exact goes_passOn m set (some s.fresh) (hpiped.trans (goes_startCommand m set c _ _ p _))
    · exact .silent ⟨rfl, rfl, rfl, rfl⟩

theorem goes_startStages (cs : Stages) (p : Plumbing) (s : Shell σ) :
    Goes set .running s .running (startStages m set cs p s).2.2 := by
  induction cs generalizing p s with
  | nil => exact .refl set .running s
  | cons c cs ih =>
    cases c with
    | none => exact .refl set .running s
    | some c =>
      unfold startStages
      dsimp only
      split
      · exact .refl set .running s
      · have hstage := goes_startStage m set cs.isEmpty c p s
        generalize startStage m set cs.isEmpty c p s = r at hstage ⊢
        obtain ⟨_ | f | code, q, t⟩ := r
        · exact hstage.trans (ih q t)
        · exact hstage
        · exact hstage

/-! ### Waits -/

theorem goes_reapAll (ps : List Nat) (s : Shell σ) : Goes set .failed s .failed (reapAll m set ps s) := by
  induction ps generalizing s with
  | nil => exact .refl set .failed s
  | cons p ps ih =>
    unfold reapAll
    have hkilled : Goes set .failed s .failed { s with world := (m.reap p (m.kill p s.world)).2 } :=
      .silent ⟨rfl, rfl, rfl, rfl⟩
    have hreaped := (hkilled.trans (Shell.goes_absorb m set .failed _)).trans (.of_step id fun _ => .reaped p)
    exact hreaped.trans (ih _)

theorem goes_killAndReap (process : Nat) (s : Shell σ) : Goes set .failed s .failed (killAndReap m set process s) := by
  rw [killAndReap_eq]
  have hkilled : Goes set .failed s .failed
      { s.killForeground m with world := (m.reap process (s.killForeground m).world).2 } := .silent ⟨rfl, rfl, rfl, rfl⟩
  exact (hkilled.trans (Shell.goes_absorb m set .failed _)).trans (.of_step id fun _ => .reaped process)

theorem goes_afterWake (process : Nat) (view : WakeView) (s : Shell σ)
    (hview : ∀ sig raced, view = .signal sig raced → s.interrupts.pending? = some sig) :
    Goes set (.waiting process) s (.afterWait (afterWake m set process view s).1) (afterWake m set process view s).2 := by
  match view with
  | .exit r =>
    exact (s.goes_absorb m set (.waiting process)).trans (.of_step id fun _ => .ended (waitResult r))
  | .cancel =>
    have hcancelled : Goes set (.waiting process) s .failed (s.note (.cancelled process)) :=
      .of_step id fun _ => .cancelled
    exact hcancelled.trans (goes_killAndReap m set process _)
  | .signal sig raced =>
    -- the account says which signal is taken
    intro a ha
    have hpending := hview sig raced rfl
    obtain ⟨d, hslot, rfl⟩ : ∃ d, a.slot = some d ∧ d.signal = sig := by
      unfold Moment.Synced at ha
      dsimp only at ha
      rw [hpending] at ha
      exact Option.map_eq_some_iff.1 ha.symm
    let taken : Shell σ := { s with interrupts := s.interrupts.receive.2 }
    have htake : Step set ⟨.waiting process, s, a⟩ ⟨.holding process d, taken, { a with slot := none }⟩ :=
      .take d hpending hslot
    have habsorb := taken.goes_absorb m set (.holding process d)
    have hrest : Goes set (.holding process d) taken (.afterWait (afterWake m set process (.signal d.signal raced) s).1)
        (afterWake m set process (.signal d.signal raced) s).2 := by
      cases raced with
      | some r =>
        have hfound := habsorb.trans (.of_step id fun _ => .found (waitResult r))
        exact hfound.trans (.of_step _ fun _ => .giveBack)
      | none =>
        have hreported := habsorb.trans (.of_step _ fun _ => .interrupt)
        exact hreported.trans (goes_killAndReap m set process _)
    obtain ⟨a', hsteps⟩ := hrest _ (htake.synced ha)
    exact ⟨a', .head htake hsteps⟩

/-- A signal at the end of a wait was in the slot. -/
theorem Wake.pending_of_view {p : Option Signal} {c : Bool} {wake : Wake p c} {sig : Signal}
    {raced : Option (Except OsError Ended)} (h : wake.view = .signal sig raced) : p = some sig := by
  cases wake <;> cases h
  rfl

theorem goes_await (process : Nat) (s : Shell σ) :
    Goes set .running s (.afterWait (await m set process s).1) (await m set process s).2 := by
  rw [await_eq]
  have hwait : Goes set .running s (.waiting process) s := .of_step id fun _ => .wait process
  have habsorbed := hwait.trans (s.goes_absorb m set (.waiting process))
  generalize s.absorb m set.capture = t at habsorbed ⊢
  have hwoken : Goes set (.waiting process) t (.waiting process)
      { t with world := (m.wake process t.interrupts.pending? t.cancelled t.world).2 } := .silent ⟨rfl, rfl, rfl, rfl⟩
  exact (habsorbed.trans hwoken).trans (goes_afterWake m set process _ _ fun sig raced h => Wake.pending_of_view h)

/-- Where a pipeline stands after its waits. -/
def Phase.afterWaits : Except Failure (Option Ended) → Phase
  | .ok _ => running
  | .error _ => failed

theorem goes_awaitAll (ps : List Nat) (last : Option Ended) (s : Shell σ) :
    Goes set .running s (.afterWaits (awaitAll m set ps last s).1) (awaitAll m set ps last s).2 := by
  induction ps generalizing last s with
  | nil => exact .refl set .running s
  | cons p ps ih =>
    have hawait := goes_await m set p s
    unfold awaitAll
    generalize await m set p s = r at hawait ⊢
    obtain ⟨f | e, t⟩ := r
    · exact hawait.trans (goes_reapAll m set ps t)
    · exact hawait.trans (ih (some e) t)

theorem goes_closeAll (phase : Phase) (p : Plumbing) (s : Shell σ) : Goes set phase s phase (closeAll m p s) := by
  have hfiles (files : List Nat) (s : Shell σ) :
      Goes set phase s phase (files.foldl (fun s file => s.closeFile m file) s) := by
    induction files generalizing s with
    | nil => exact .refl set phase s
    | cons file files ih =>
      have hclosed := Goes.requested set phase s (m.closeFile file s.world) s.fresh s.foreground
        (.closed file) rfl
      exact hclosed.trans (ih _)
  unfold closeAll
  cases p.reader with
  | none => exact hfiles p.files s
  | some q =>
    have hclosed := Goes.requested set phase s (m.closeReader q s.world) s.fresh s.foreground
      (.readerClosed q) rfl
    exact hclosed.trans (hfiles p.files _)

/-! ### Pipelines and lines -/

/-- Where a line stands after a pipeline. -/
def PipelineEnd.phase : PipelineEnd → Phase
  | .terminated _ => .running
  | _ => .between

theorem Goes.finish {set : Settings} {phase : Phase} {s t : Shell σ} (h : Goes set phase s phase t)
    (hphase : phase = .running ∨ phase = .failed) : Goes set phase s .between t :=
  h.trans (.of_step id fun _ => .finish hphase)

theorem goes_runStages (cs : Stages) (s : Shell σ) :
    Goes set .running s (runStages m set cs s).1.phase (runStages m set cs s).2 := by
  have hstages := goes_startStages m set cs {} s
  unfold runStages
  generalize startStages m set cs {} s = r at hstages ⊢
  obtain ⟨_ | f | code, p, t⟩ := r
  · have hwaits := goes_awaitAll m set p.processes none t
    dsimp only
    generalize awaitAll m set p.processes none t = r at hwaits ⊢
    obtain ⟨f | last, u⟩ := r
    · exact (hstages.trans hwaits).trans ((goes_closeAll m set .failed p u).finish (.inr rfl))
    · exact (hstages.trans hwaits).trans ((goes_closeAll m set .running p u).finish (.inl rfl))
  · have hfailed : Goes set .running t .failed t := .of_step id fun _ => .fail
    have hreaped := (hstages.trans hfailed).trans (goes_reapAll m set p.processes t)
    exact hreaped.trans ((goes_closeAll m set .failed p _).finish (.inr rfl))
  · exact hstages

theorem goes_runPipeline (p : Option Stages) (s : Shell σ) :
    Goes set .between s (runPipeline m set p s).1.phase (runPipeline m set p s).2 := by
  match p with
  | none => exact .refl set .between s
  | some [] => exact .refl set .between s
  | some (c :: cs) =>
    cases hp : Stages.pipeline? (c :: cs) with
    | none =>
      simp only [runPipeline, hp]
      exact .refl set .between s
    | some pipeline =>
      simp only [runPipeline, hp]
      have hstart : Goes set .between s .running (s.note (.pipeline (Pipeline.render pipeline))) :=
        .of_step _ fun _ => .start _
      exact hstart.trans (goes_runStages m set (c :: cs) _)

theorem Event.isAside_of_recoverable {f : Failure} {r : Int × Event} (h : recoverable f = some r) : r.2.isAside := by
  rcases recoverable_cases h with ⟨-, rfl⟩ | ⟨-, -, rfl⟩
  · rfl
  · rfl

theorem goes_runSequence (ps : List (Option Stages)) (code : Int) (s : Shell σ) :
    Goes set .between s (runSequence m set ps code s).1.phase (runSequence m set ps code s).2 := by
  induction ps generalizing code s with
  | nil => exact .refl set .between s
  | cons p ps ih =>
    have hpipeline := goes_runPipeline m set p s
    unfold runSequence
    generalize runPipeline m set p s = r at hpipeline ⊢
    obtain ⟨n | f | code' | _, t⟩ := r
    · exact hpipeline.trans (ih n t)
    · dsimp only
      cases hr : recoverable f with
      | none => exact hpipeline
      | some r => exact (hpipeline.trans (.note r.2 (Event.isAside_of_recoverable hr))).trans (ih r.1 _)
    · exact hpipeline
    · exact hpipeline

end

end AuditShell
