import AuditShell.Proofs.Journal
import AuditShell.Proofs.Recording
import AuditShell.Proofs.Steps
import AuditShell.Proofs.Written
/-!
# What is written comes out once

Where output is collected, everything that is written to a stream of the line is either passed on before an exit or
still collected, in the order in which it was written (`Delivers`). What is collected at the end is in the result of
the line. So the bytes that come out are those that would have gone to the inherited stream (`execute_output`), and
a caller that writes the result where the exits have written gets every byte once (`runLine_output`).
-/

namespace AuditShell

variable {σ : Type}

/-! ## What events say about the streams -/

namespace Event

/-- What an event says was passed on of what was collected on a stream, before an exit or after the line. -/
def passed (stream : Stream) : Event → Bytes
  | flushed st bytes => if st = stream then bytes else []
  | delivered out err => match stream with
    | .out => out
    | .err => err
  | _ => []

/-- Whether an event is part of an exit. -/
def ofExit : Event → Bool
  | flushed _ _ => true
  | exitHook _ => true
  | _ => false

/-- Whether nothing is written, nothing is passed on and no exit is asked for. -/
def still : Event → Bool
  | wrote _ _ => false
  | flushed _ _ => false
  | delivered _ _ => false
  | exitHook _ => false
  | _ => true

theorem isAside.still {e : Event} (h : e.isAside) : e.still := by
  cases e <;> first | rfl | cases h

theorem still.written {e : Event} (h : e.still) (stream : Stream) : e.written stream = [] := by
  cases e <;> first | rfl | cases h

theorem still.passed {e : Event} (h : e.still) (stream : Stream) : e.passed stream = [] := by
  cases e <;> first | rfl | cases h

theorem still.ofExit {e : Event} (h : e.still) : e.ofExit = false := by
  cases e <;> first | rfl | cases h

/-- That output was passed on does not say that anything was written. -/
theorem flatMap_written_filter (es : List Event) (stream : Stream) :
    (es.filter fun e => !e.isFlushed).flatMap (written stream) = es.flatMap (written stream) := by
  induction es with
  | nil => rfl
  | cons e es ih =>
    rw [List.filter_cons, List.flatMap_cons, ← ih]
    split
    · rfl
    next hflushed =>
      cases e with
      | flushed st bytes => rfl
      | _ => exact absurd rfl hflushed

end Event

/-- What was collected on a stream. -/
def Shell.captured (stream : Stream) (s : Shell σ) : Bytes :=
  match stream with
  | .out => s.capturedOut
  | .err => s.capturedErr

theorem Shell.captured_write (stream : Stream) (bytes : Bytes) (s : Shell σ) (st : Stream) :
    (s.write true stream bytes).captured st = s.captured st ++ Event.written st (.wrote stream bytes) := by
  unfold write
  split
  next hbytes =>
    subst hbytes
    simp [Event.written]
  next => cases stream <;> cases st <;> simp [captured, note, Event.written]

/-- What a result has of a stream. -/
def Result.output (stream : Stream) (r : Result) : Bytes :=
  match stream with
  | .out => r.stdout
  | .err => r.stderr

/-- An exit that a builtin asks for: its code, and what was passed on before the hook was called. -/
structure Departure where
  code : Int
  passed : List Bytes
  deriving DecidableEq, Repr

/-- What is noted of an exit: one event for each stream that is passed on, and then the call of the hook. -/
def Departure.events (set : Settings) (d : Departure) : List Event :=
  set.flushing.zipWith Event.flushed d.passed ++ [.exitHook d.code]

/-- What is noted of an exit that is under way. -/
def Phase.Passing (set : Settings) (phase : Phase) (es : List Event) : Prop :=
  match phase with
  | exiting _ streams => ∃ before passed, set.flushing = before ++ streams ∧ passed.length = before.length ∧
      es = before.zipWith Event.flushed passed
  | _ => es = []

/-- Since a line got its streams, these events have been noted, and everything that was written was passed on or is
still collected. -/
structure Delivers (set : Settings) (phase : Phase) (s : Shell σ) (es : List Event) : Prop where
  /-- Everything that was written, once and in order. -/
  kept : ∀ stream, es.flatMap (Event.passed stream) ++ s.captured stream = es.flatMap (Event.written stream)
  /-- Whenever a stream is passed on, everything that was written to it before is passed on by then. -/
  complete : ∀ before stream bytes after, es = before ++ .flushed stream bytes :: after →
    before.flatMap (Event.passed stream) ++ bytes = before.flatMap (Event.written stream)
  /-- Streams are passed on for an exit only, each of those that are to be passed on just before the call of the hook
  of that exit. -/
  orderly : ∃ (departures : List Departure) (rest : List Event),
    es.filter Event.ofExit = departures.flatMap (Departure.events set) ++ rest ∧
    (∀ d ∈ departures, d.passed.length = set.flushing.length) ∧ phase.Passing set rest

namespace Delivers

variable {set : Settings} {phase phase' : Phase} {s s' : Shell σ} {es es' : List Event}

theorem start (hphase : phase.Passing set []) (h : ∀ stream, s.captured stream = []) : Delivers set phase s [] where
  kept stream := h stream
  complete before stream bytes after hes := by simp at hes
  orderly := ⟨[], [], rfl, nofun, hphase⟩

/-- One more event. -/
theorem complete_append (h : Delivers set phase s es) {e : Event}
    (he : ∀ stream bytes, e = .flushed stream bytes → bytes = s.captured stream) (before : List Event) (stream : Stream)
    (bytes : Bytes) (after : List Event) (hes : es ++ [e] = before ++ .flushed stream bytes :: after) :
    before.flatMap (Event.passed stream) ++ bytes = before.flatMap (Event.written stream) := by
  -- the event is the one that was added, or stands before it
  rcases List.eq_nil_or_concat' after with rfl | ⟨after', e', rfl⟩
  · obtain ⟨rfl, hlast⟩ := List.append_inj' hes rfl
    rw [he stream bytes (List.singleton_inj.1 hlast)]
    exact h.kept stream
  · rw [← List.cons_append, ← List.append_assoc] at hes
    obtain ⟨hinit, -⟩ := List.append_inj' hes rfl
    exact h.complete before stream bytes after' hinit

theorem same (h : Delivers set phase s es) (hcaptured : ∀ stream, s'.captured stream = s.captured stream)
    (hphase : ∀ rest, phase.Passing set rest → phase'.Passing set rest) : Delivers set phase' s' es where
  kept stream := by
    rw [hcaptured]
    exact h.kept stream
  complete := h.complete
  orderly := by
    obtain ⟨departures, rest, hes, hlengths, hrest⟩ := h.orderly
    exact ⟨departures, rest, hes, hlengths, hphase rest hrest⟩

theorem still (h : Delivers set phase s es) {e : Event} (he : e.still)
    (hcaptured : ∀ stream, s'.captured stream = s.captured stream)
    (hphase : ∀ rest, phase.Passing set rest → phase'.Passing set rest) : Delivers set phase' s' (es ++ [e]) where
  kept stream := by
    rw [hcaptured, List.flatMap_append, List.flatMap_append, List.flatMap_singleton, List.flatMap_singleton,
      Event.still.passed he, Event.still.written he, List.append_nil, List.append_nil]
    exact h.kept stream
  complete := h.complete_append fun stream bytes hflushed => by
    subst hflushed
    cases he
  orderly := by
    obtain ⟨departures, rest, hes, hlengths, hrest⟩ := h.orderly
    refine ⟨departures, rest, ?_, hlengths, hphase rest hrest⟩
    rw [List.filter_append, List.filter_cons_of_neg (by rw [Event.still.ofExit he]; exact Bool.false_ne_true), hes]
    exact List.append_nil _

theorem wrote (h : Delivers set phase s es) (stream : Stream) (bytes : Bytes) :
    ∃ es', (s.write true stream bytes).journal = s.journal ++ es' ∧
      Delivers set phase (s.write true stream bytes) (es ++ es') := by
  have hjournal := Shell.write_journal true stream bytes s
  have hcaptured := Shell.captured_write stream bytes s
  split at hjournal
  next hbytes =>
    subst hbytes
    refine ⟨[], hjournal.trans (List.append_nil _).symm, ?_⟩
    rw [List.append_nil]
    refine h.same (fun st => ?_) fun _ => id
    simp [hcaptured, Event.written]
  next =>
    refine ⟨[.wrote stream bytes], hjournal, ?_, ?_, ?_⟩
    · intro st
      rw [hcaptured, List.flatMap_append, List.flatMap_append, ← h.kept st]
      simp [Event.passed]
    · exact h.complete_append nofun
    · obtain ⟨departures, rest, hes, hlengths, hrest⟩ := h.orderly
      exact ⟨departures, rest, by simpa [Event.ofExit] using hes, hlengths, hrest⟩

theorem exit (h : Delivers set .running s es) (code : Int) : Delivers set (.exiting code set.flushing) s es := by
  refine h.same (fun _ => rfl) ?_
  rintro rest rfl
  exact ⟨[], [], rfl, rfl, rfl⟩

theorem flush {code : Int} {stream : Stream} {streams : List Stream}
    (h : Delivers set (.exiting code (stream :: streams)) s es) :
    (s.flushStream stream).journal = s.journal ++ [.flushed stream (s.captured stream)] ∧
      Delivers set (.exiting code streams) (s.flushStream stream) (es ++ [.flushed stream (s.captured stream)]) := by
  refine ⟨by cases stream <;> rfl, ?_, ?_, ?_⟩
  · intro st
    have hkept := h.kept st
    rw [List.flatMap_append, List.flatMap_append, ← hkept]
    cases stream <;> cases st <;> simp [Event.passed, Event.written, Shell.captured, Shell.flushStream, Shell.note]
  · refine h.complete_append ?_
    intro st bytes he
    cases he
    rfl
  · obtain ⟨departures, rest, hes, hlengths, before, passed, hflushing, hlength, rfl⟩ := h.orderly
    refine ⟨departures, _, ?_, hlengths, before ++ [stream], passed ++ [s.captured stream], ?_, ?_, rfl⟩
    · rw [List.filter_append, hes, List.zipWith_append hlength.symm, List.append_assoc]
      rfl
    · rw [hflushing, List.append_assoc]
      rfl
    · rw [List.length_append, List.length_append, hlength]
      rfl

theorem hook {code : Int} (h : Delivers set (.exiting code []) s es) :
    Delivers set .running (s.note (.exitHook code)) (es ++ [.exitHook code]) where
  kept stream := by
    have hkept := h.kept stream
    rw [List.flatMap_append, List.flatMap_append, ← hkept]
    simp [Event.passed, Event.written, Shell.captured, Shell.note]
  complete := h.complete_append nofun
  orderly := by
    obtain ⟨departures, rest, hes, hlengths, before, passed, hflushing, hlength, rfl⟩ := h.orderly
    rw [List.append_nil] at hflushing
    refine ⟨departures ++ [⟨code, passed⟩], [], ?_, ?_, rfl⟩
    · rw [List.filter_append, hes, List.flatMap_append, List.flatMap_singleton, Departure.events, hflushing,
        List.append_nil, List.append_assoc]
      rfl
    · intro d hd
      rcases List.mem_append.1 hd with hd | hd
      · exact hlengths d hd
      · cases List.mem_singleton.1 hd
        rw [hflushing]
        exact hlength

end Delivers

/-! ## Every step delivers -/

namespace Phase

/-- Whether the line has its streams. -/
def hasStreams : Phase → Bool
  | draining _ => false
  | ready => false
  | _ => true

/-- Whether an exit is under way. -/
def isExiting : Phase → Bool
  | exiting _ _ => true
  | _ => false

theorem passing_iff {set : Settings} {phase : Phase} (h : phase.isExiting = false) (rest : List Event) :
    phase.Passing set rest ↔ rest = [] := by
  cases phase with
  | exiting code streams => cases h
  | _ => exact Iff.rfl

theorem afterWait_plain (r : Except Failure Ended) : (afterWait r).isExiting = false ∧ (afterWait r).hasStreams := by
  cases r <;> exact ⟨rfl, rfl⟩

end Phase

/-- Since the journal was `base`, a line has delivered its output. -/
def Moment.Delivered (set : Settings) (base : List Event) (x : Moment σ) : Prop :=
  x.phase.hasStreams ∧ ∃ es, x.shell.journal = base ++ es ∧ Delivers set x.phase x.shell es

theorem Step.delivered {set : Settings} {base : List Event} {x y : Moment σ} (hcapture : set.capture = true)
    (h : Step set x y) (hx : x.Delivered set base) : y.Delivered set base := by
  obtain ⟨hstreams, es, hes, hdelivers⟩ := hx
  have hnoted {phase : Phase} {s : Shell σ} {a : Account} {new : List Event} (hstreams : phase.hasStreams)
      (hjournal : s.journal = x.shell.journal ++ new) (hdelivers : Delivers set phase s (es ++ new)) :
      (⟨phase, s, a⟩ : Moment σ).Delivered set base := by
    refine ⟨hstreams, es ++ new, ?_, hdelivers⟩
    rw [← List.append_assoc, ← hes]
    exact hjournal
  -- outside of an exit, steps at which nothing is noted, or something else
  have hsame {phase : Phase} {s : Shell σ} {a : Account} (hp : x.phase.isExiting = false) (hp' : phase.isExiting = false)
      (hstreams : phase.hasStreams) (hjournal : s.journal = x.shell.journal)
      (hcaptured : ∀ stream, s.captured stream = x.shell.captured stream) :
      (⟨phase, s, a⟩ : Moment σ).Delivered set base := by
    refine ⟨hstreams, es, hjournal.trans hes, hdelivers.same hcaptured fun rest hrest => ?_⟩
    rwa [Phase.passing_iff hp', ← Phase.passing_iff hp]
  have hstill {phase : Phase} {s : Shell σ} {a : Account} (e : Event) (hp : x.phase.isExiting = false)
      (hp' : phase.isExiting = false) (hstreams : phase.hasStreams) (he : e.still)
      (hjournal : s.journal = x.shell.journal ++ [e])
      (hcaptured : ∀ stream, s.captured stream = x.shell.captured stream) :
      (⟨phase, s, a⟩ : Moment σ).Delivered set base := by
    refine hnoted hstreams hjournal (hdelivers.still he hcaptured fun rest hrest => ?_)
    rwa [Phase.passing_iff hp', ← Phase.passing_iff hp]
  cases h with
  | @silent phase s s' a hs =>
    refine ⟨hstreams, es, hs.journal.trans hes, hdelivers.same (fun stream => ?_) fun _ => id⟩
    cases stream with
    | out => exact hs.out
    | err => exact hs.err
  | note e he => exact hnoted hstreams rfl (hdelivers.still (Event.isAside.still he) (fun _ => rfl) fun _ => id)
  | wrote stream bytes =>
    obtain ⟨es', hjournal, hwrote⟩ := hdelivers.wrote stream bytes
    rw [hcapture]
    exact hnoted hstreams hjournal hwrote
  | @sent phase s a sig =>
    have hsent : (Event.sent sig (s.interrupts.send sig).1).still := rfl
    exact hnoted hstreams rfl (hdelivers.still hsent (fun _ => rfl) fun _ => id)
  | drop => cases hstreams
  | drained => cases hstreams
  | clear => cases hstreams
  | start line => exact hstill _ rfl rfl rfl rfl rfl fun _ => rfl
  | exit code => exact ⟨rfl, es, hes, hdelivers.exit code⟩
  | flush =>
    obtain ⟨hjournal, hflush⟩ := hdelivers.flush
    exact hnoted rfl hjournal hflush
  | hook => exact hnoted rfl rfl hdelivers.hook
  | wait process => exact hsame rfl rfl rfl rfl fun _ => rfl
  | ended r => exact hstill _ rfl (Phase.afterWait_plain r).1 (Phase.afterWait_plain r).2 rfl rfl fun _ => rfl
  | take d hs ha => exact hsame rfl rfl rfl rfl fun _ => rfl
  | found r => exact hstill _ rfl rfl rfl rfl rfl fun _ => rfl
  | @giveBack s a d r =>
    exact hstill (.sent d.signal (s.interrupts.send d.signal).1) rfl (Phase.afterWait_plain r).1
      (Phase.afterWait_plain r).2 rfl rfl fun _ => rfl
  | interrupt => exact hstill _ rfl rfl rfl rfl rfl fun _ => rfl
  | cancelled => exact hstill _ rfl rfl rfl rfl rfl fun _ => rfl
  | fail => exact hsame rfl rfl rfl rfl fun _ => rfl
  | reaped process => exact hstill _ rfl rfl rfl rfl rfl fun _ => rfl
  | finish hphase => rcases hphase with rfl | rfl <;> exact hsame rfl rfl rfl rfl fun _ => rfl

theorem Steps.delivered {set : Settings} {base : List Event} {x y : Moment σ} (hcapture : set.capture = true)
    (h : Steps set x y) (hx : x.Delivered set base) : y.Delivered set base := by
  induction h with
  | refl => exact hx
  | tail _ hstep ih => exact hstep.delivered hcapture ih

/-! ## Lines deliver -/

section

variable (m : Machine σ) (set : Settings)

/-- The pipelines of a line deliver everything, where output is collected. -/
theorem runSequence_delivers (hcapture : set.capture = true) (ps : List (Option Stages)) (code : Int) (s : Shell σ)
    (hs : ∀ stream, s.captured stream = []) :
    ∃ es, (runSequence m set ps code s).2.journal = s.journal ++ es ∧
      Delivers set .between (runSequence m set ps code s).2 es := by
  have hstart : (⟨.between, s, .before s.interrupts⟩ : Moment σ).Delivered set s.journal :=
    ⟨rfl, [], (List.append_nil _).symm, .start rfl hs⟩
  obtain ⟨a, hsteps⟩ := goes_runSequence m set ps code s _ (Moment.synced_before _ s)
  obtain ⟨-, es, hes, hdelivers⟩ := hsteps.delivered hcapture hstart
  refine ⟨es, hes, hdelivers.same (fun _ => rfl) fun rest hrest => ?_⟩
  have hphase : ((runSequence m set ps code s).1.phase).isExiting = false := by
    cases (runSequence m set ps code s).1 <;> rfl
  exact (Phase.passing_iff hphase rest).1 hrest

/-! ### The same line where nothing is collected -/

/-- A view that forgets what is collected, under settings without exits that pass it on. -/
theorem Shell.hom_forget (capture : Bool) :
    Shell.Hom m m { set with capture, flushOut := false, flushErr := false } { set with capture := false } id (fun _ => [])
      id where
  machine := m.hom_id
  registry := rfl
  hook := rfl
  journal _ _ _ := rfl
  write s stream bytes := by
    unfold write
    split
    · rfl
    · cases capture <;> cases stream <;> rfl
  flush s := by
    unfold flush
    cases capture <;> rfl

/-- A view that forgets what is collected and that it is passed on. -/
theorem Shell.hom_uncaptured :
    Shell.Hom m m { set with capture := true } { set with capture := false } id (fun _ => [])
      (List.filter fun e => !e.isFlushed) where
  machine := m.hom_id
  registry := rfl
  hook := rfl
  journal es e he := by
    rw [List.filter_append, List.filter_cons_of_pos (by rw [he]; rfl)]
    rfl
  write s stream bytes := by
    unfold write
    split
    · rfl
    · cases stream <;> simp [view, note, Event.isFlushed]
  flush s := by
    unfold flush
    cases set.flushOut <;> cases set.flushErr <;> simp [view, note, flushStream, Event.isFlushed]

/-- When the pipelines of a line begin, it makes no difference yet whether output is collected. -/
theorem Shell.cleared_uncaptured (s : Shell σ) :
    s.cleared m { set with capture := false } = s.cleared m { set with capture := true } := by
  have hforget (capture : Bool) : (s.view id (fun _ => []) id).ready m { set with capture := false } =
      (s.ready m { set with capture }).view id (fun _ => []) id := by
    unfold Shell.ready
    have habsorb := Shell.absorb_view (Shell.hom_forget m set capture) s
    dsimp only at habsorb ⊢
    rw [habsorb, dropStale_view (Shell.hom_forget m set capture)]
  exact (hforget false).symm.trans (hforget true)

/-- The pipelines of a line end in the same way where nothing is collected, and note the same but for what is
passed on. -/
theorem runSequence_uncaptured (ps : List (Option Stages)) (code : Int) (s : Shell σ)
    (hs : ∀ stream, s.captured stream = []) {es : List Event}
    (hes : (runSequence m { set with capture := true } ps code s).2.journal = s.journal ++ es) :
    runSequence m { set with capture := false } ps code s =
      ((runSequence m { set with capture := true } ps code s).1,
        { (runSequence m { set with capture := true } ps code s).2 with
          capturedOut := [], capturedErr := [], journal := s.journal ++ es.filter fun e => !e.isFlushed }) := by
  have hempty : (({ s with journal := [] } : Shell σ).view id (fun _ => []) (List.filter fun e => !e.isFlushed)) =
      { s with journal := [] } := by
    have hout := hs .out
    have herr := hs .err
    dsimp only [Shell.captured] at hout herr
    simp [Shell.view, hout, herr]
  -- the view forgets exits of earlier lines too, so it is taken of a shell with an empty journal
  obtain ⟨es', hes', hcaptured⟩ := runSequence_journal m { set with capture := true } ps code s []
  cases List.append_cancel_left (hes.symm.trans hes')
  have hview := runSequence_view (Shell.hom_uncaptured m set) ps code { s with journal := [] }
  rw [hempty, hcaptured] at hview
  obtain ⟨es'', hes'', hshift⟩ :=
    runSequence_journal m { set with capture := false } ps code { s with journal := [] } s.journal
  rw [hview] at hes'' hshift
  have hfilter : es.filter (fun e => !e.isFlushed) = es'' := by simpa [Shell.view] using hes''
  rw [hfilter]
  exact hshift

/-! ### Results -/

/-- A line has returned this result and has noted these events since it got its streams. Its output came out once. -/
structure DeliveredOnce (es : List Event) (result : Result) : Prop where
  /-- What was passed on before exits, and then the result, is all that was written, in order. -/
  once : ∀ stream, es.flatMap (Event.passed stream) ++ result.output stream = es.flatMap (Event.written stream)
  /-- Only the streams for which that is asked are passed on. -/
  asked : ∀ stream bytes, .flushed stream bytes ∈ es → stream ∈ set.flushing
  /-- Whenever a stream is passed on, everything that was written to it before is passed on by then. -/
  complete : ∀ before stream bytes after, es = before ++ .flushed stream bytes :: after →
    before.flatMap (Event.passed stream) ++ bytes = before.flatMap (Event.written stream)
  /-- Each exit passes on its streams, and then calls the hook. -/
  orderly : ∃ departures : List Departure, es.filter Event.ofExit = departures.flatMap (Departure.events set) ∧
    ∀ d ∈ departures, d.passed.length = set.flushing.length

theorem Departure.mem_flushing {d : Departure} {stream : Stream} {bytes : Bytes} (h : .flushed stream bytes ∈ d.events set) :
    stream ∈ set.flushing := by
  rcases List.mem_append.1 h with h | h
  · obtain ⟨i, hi, he⟩ := List.getElem_of_mem h
    rw [List.getElem_zipWith] at he
    cases he
    exact List.getElem_mem _
  · cases List.mem_singleton.1 h

theorem Delivers.once {s : Shell σ} {es : List Event} (h : Delivers set .between s es) (code : Int) :
    DeliveredOnce set es (s.result code) := by
  obtain ⟨departures, rest, hes, hlengths, hrest⟩ := h.orderly
  cases hrest
  rw [List.append_nil] at hes
  refine ⟨fun stream => ?_, fun stream bytes hmem => ?_, h.complete, departures, hes, hlengths⟩
  · have hkept := h.kept stream
    cases stream <;> exact hkept
  · have hexit : Event.flushed stream bytes ∈ es.filter Event.ofExit := List.mem_filter.2 ⟨hmem, rfl⟩
    rw [hes] at hexit
    obtain ⟨d, -, hd⟩ := List.mem_flatMap.1 hexit
    exact d.mem_flushing set hd

/-- The result of a line without what was collected. -/
def Result.bare (r : Result) : Result := { r with stdout := [], stderr := [] }

/-- A line that returns a result has delivered its output once, and where nothing is collected it runs in the same
way and writes the same. -/
theorem execute_output (d : Draft) (s : Shell σ) {result : Result} {failure : Option Failure}
    (h : (execute m { set with capture := true } d s).1 = .returned (some result) failure) :
    ∃ es, (execute m { set with capture := true } d s).2.journal =
        (s.ready m { set with capture := true }).journal ++ es ∧
      DeliveredOnce { set with capture := true } es result ∧
      execute m { set with capture := false } d s =
        (.returned (some result.bare) failure,
          { (execute m { set with capture := true } d s).2 with
            capturedOut := [], capturedErr := []
            journal := (s.ready m { set with capture := true }).journal ++ es.filter fun e => !e.isFlushed }) := by
  cases hd : d.pipelines with
  | error c =>
    rw [Draft.execute_error m _ hd] at h
    cases h
  | ok ps =>
    have hempty (stream : Stream) : (s.cleared m { set with capture := true }).captured stream = [] := by
      cases stream <;> rfl
    obtain ⟨es, hes, hdelivers⟩ := runSequence_delivers m { set with capture := true } rfl ps 0 _ hempty
    have huncaptured := runSequence_uncaptured m set ps 0 _ hempty hes
    rw [Draft.execute_eq m _ hd] at h
    rw [Draft.execute_eq m _ hd, Draft.execute_eq m _ hd, Shell.cleared_uncaptured]
    dsimp only at h ⊢
    rw [huncaptured]
    refine ⟨es, hes, ?_⟩
    generalize runSequence m { set with capture := true } ps 0 (s.cleared m { set with capture := true }) = r at h hdelivers ⊢
    obtain ⟨n | f | code | _, t⟩ := r
    · cases h
      exact ⟨hdelivers.once _ n, rfl⟩
    · cases h
      exact ⟨hdelivers.once _ 0, rfl⟩
    · cases h
    · cases h

/-- A line that was read returns a result where the exit hook comes back. -/
theorem execute_ofTree_returned (hhook : set.hook = .returns) (tree : Tree) (s : Shell σ) :
    ∃ result failure, (execute m set (.ofTree tree) s).1 = .returned (some result) failure := by
  have hcrash := execute_ofTree_ne_crashed m set tree s
  have hterminated := (exits_execute m set (.ofTree tree) s).hook
  rw [Draft.execute_eq m set (Draft.pipelines_ofTree tree)] at hcrash hterminated ⊢
  dsimp only at hcrash hterminated ⊢
  generalize runSequence m set _ 0 _ = r at hcrash hterminated ⊢
  obtain ⟨n | f | code | _, t⟩ := r
  · exact ⟨_, _, rfl⟩
  · exact ⟨_, _, rfl⟩
  · have hhook' := (hterminated code rfl).1
    rw [hhook] at hhook'
    cases hhook'
  · exact absurd rfl hcrash

/-! ## What the caller of a line sees -/

/-- An event that passes nothing on. -/
def Event.Withholds (e : Event) : Prop := ∀ stream, e.passed stream = []

theorem Shell.Grows.withholds {s t : Shell σ} (h : s.Grows Event.Withholds t) :
    ∃ es, t.journal = s.journal ++ es ∧ ∀ stream, es.flatMap (Event.passed stream) = [] := by
  obtain ⟨es, hes, hnone⟩ := h
  exact ⟨es, hes, fun stream => List.flatMap_eq_nil_iff.2 fun e he => hnone e he stream⟩

theorem Shell.withholds_ready (s : Shell σ) : s.Grows Event.Withholds (s.ready m set) := by
  have habsorbed : s.Grows Event.Withholds (s.absorb m set.capture) :=
    (Shell.winds_absorb m set.capture s).mono fun e he stream => by cases e <;> first | rfl | cases he
  refine habsorbed.trans ?_
  unfold Shell.ready Shell.dropStale
  dsimp only
  split
  · exact .of_eq rfl
  · exact .note (.of_eq rfl) fun _ => rfl

/-- To record a line passes nothing on, and writes nothing. -/
theorem record_still (rec : Recorder σ) (s : Session σ) (r : Audit.Record) :
    s.shell.Grows (·.still) (s.record rec r).shell := by
  unfold Session.record
  split
  · exact .of_eq rfl
  · split
    · exact .of_eq rfl
    · exact .note (.of_eq rfl) rfl

/-- What a line has noted before it got its streams, and since. -/
structure Emits (line : Bytes) (s t : Shell σ) (before after : List Event) : Prop where
  journal : t.journal = s.journal ++ before ++ after
  /-- The streams are those of the run of a tree, or the line has none. -/
  streams : before = [] ∨ ∃ tree : Tree, s.journal ++ before = ((s.note (.parsed line tree.dump)).ready m set).journal
  /-- No output of the line is passed on before it has its streams. -/
  nothing : ∀ stream, before.flatMap (Event.passed stream) = []
  /-- What is passed on from then on, before exits and after the line, is all that is written. -/
  everything : ∀ stream, after.flatMap (Event.passed stream) = after.flatMap (Event.written stream)

variable {m set}

theorem Emits.still {line : Bytes} {s t u : Shell σ} {before after : List Event}
    (h : Emits m set line s t before after) (htu : t.Grows (·.still) u) :
    ∃ after', Emits m set line s u before after' := by
  obtain ⟨es, hes, hstill⟩ := htu
  refine ⟨after ++ es, ?_, h.streams, h.nothing, fun stream => ?_⟩
  · rw [hes, h.journal, List.append_assoc]
  · have hpassed : es.flatMap (Event.passed stream) = [] :=
      List.flatMap_eq_nil_iff.2 fun e he => Event.still.passed (hstill e he) stream
    have hwritten : es.flatMap (Event.written stream) = [] :=
      List.flatMap_eq_nil_iff.2 fun e he => Event.still.written (hstill e he) stream
    rw [List.flatMap_append, List.flatMap_append, hpassed, hwritten, h.everything stream]

variable (m set)

/-- A line up to its record emits every byte once, where the exit hook comes back. -/
theorem attempt_emits (hhook : set.hook = .returns) (line : Bytes) (s : Shell σ) :
    (∀ code, (attempt m { set with capture := true } line s).1 ≠ .ended code) ∧
      (attempt m { set with capture := true } line s).1 ≠ .crashed ∧
      ∃ before after, Emits m { set with capture := true } line s (attempt m { set with capture := true } line s).2
        before after := by
  have hnone : Emits m { set with capture := true } line s s [] [] :=
    ⟨by simp, .inl rfl, fun _ => rfl, fun _ => rfl⟩
  unfold attempt
  cases Token.scan line with
  | error e => exact ⟨nofun, nofun, [], [], hnone⟩
  | ok tokens =>
    dsimp only
    split
    · exact ⟨nofun, nofun, [], [], hnone⟩
    · cases Tree.ofTokens tokens with
      | error e => exact ⟨nofun, nofun, [], [], hnone⟩
      | ok tree =>
        let parsed := s.note (.parsed line tree.dump)
        obtain ⟨result, failure, hend⟩ := execute_ofTree_returned m { set with capture := true } hhook tree parsed
        obtain ⟨es, hes, honce, -⟩ := execute_output m set (.ofTree tree) parsed hend
        have hparsed : s.Grows Event.Withholds parsed := .note (.of_eq rfl) fun _ => rfl
        obtain ⟨before, hbefore, hnothing⟩ :=
          (hparsed.trans (parsed.withholds_ready m { set with capture := true })).withholds
        dsimp only
        rw [hend]
        refine ⟨nofun, nofun, before, es ++ [.delivered result.stdout result.stderr], ?_,
          .inr ⟨tree, hbefore.symm⟩, hnothing, fun stream => ?_⟩
        · rw [← List.append_assoc, ← hbefore, ← hes]
          rfl
        · rw [List.flatMap_append, List.flatMap_append, ← honce.once stream]
          cases stream <;> simp [Event.passed, Event.written, Result.output]

/-- A line emits every byte once, where the exit hook comes back. -/
theorem runLine_emits (hhook : set.hook = .returns) (rec : Recorder σ) (line : Bytes) (s : Session σ) :
    ∃ result error before after,
      (runLine m { set with capture := true } rec line s).1 = .returned result error ∧
      Emits m { set with capture := true } line s.shell (runLine m { set with capture := true } rec line s).2.shell
        before after := by
  obtain ⟨hended, hcrashed, before, after, hemits⟩ := attempt_emits m set hhook line s.shell
  rw [runLine_eq]
  generalize attempt m { set with capture := true } line s.shell = r at hended hcrashed hemits ⊢
  obtain ⟨_ | code | _ | ⟨commands, result, error⟩, t⟩ := r
  · exact ⟨none, none, before, after, rfl, hemits⟩
  · exact absurd rfl (hended code)
  · exact absurd rfl hcrashed
  · obtain ⟨after', hemits'⟩ := hemits.still (record_still rec { s with shell := t } _)
    exact ⟨result, error, before, after', rfl, hemits'⟩

end

/-- Output that is collected is delivered once and in order. Whenever a line returns a result, what its exits have
passed on and then the result are all that was written to each stream, and all that the inherited streams get
where nothing is collected and the line runs in the same way. Only streams for which that is asked are passed on,
just before the hook is called, and then everything that was written so far. What was written is what the machine has
reported as written and what builtins have said, in the order of the episodes. A line that was read returns a result
where the exit hook comes back, and its caller has then emitted every byte once. -/
theorem output_once (m : Machine σ) (set : Settings) (rec : Recorder σ) :
    (∀ (d : Draft) (s : Shell σ) (result : Result) (failure : Option Failure),
      (execute m { set with capture := true } d s).1 = .returned (some result) failure →
      ∃ es, (execute m { set with capture := true } d s).2.journal =
          (s.ready m { set with capture := true }).journal ++ es ∧
        DeliveredOnce { set with capture := true } es result ∧
        execute m { set with capture := false } d s =
          (.returned (some result.bare) failure,
            { (execute m { set with capture := true } d s).2 with
              capturedOut := [], capturedErr := []
              journal := (s.ready m { set with capture := true }).journal ++ es.filter fun e => !e.isFlushed }) ∧
        (∀ stream, (es.filter fun e => !e.isFlushed).flatMap (Event.written stream) =
          es.flatMap (Event.passed stream) ++ result.output stream) ∧
        ∃ episodes, Recounts m { set with capture := true } es episodes ∧
          execute m.heard { set with capture := true } d (s.map (·, [])) =
            Prod.map id (Shell.map (·, (m.meanwhile s.world).1 ++ episodes.flatMap Episode.reports))
              (execute m { set with capture := true } d s) ∧
          ∀ stream, es.flatMap (Event.passed stream) ++ result.output stream =
            stream.gets (episodes.flatMap Episode.writings)) ∧
    (set.hook = .returns →
      (∀ (tree : Tree) (s : Shell σ), ∃ result failure,
        (execute m { set with capture := true } (.ofTree tree) s).1 = .returned (some result) failure) ∧
      ∀ (line : Bytes) (s : Session σ), ∃ result error before after,
        (runLine m { set with capture := true } rec line s).1 = .returned result error ∧
        Emits m { set with capture := true } line s.shell (runLine m { set with capture := true } rec line s).2.shell
          before after) := by
  constructor
  · intro d s result failure h
    obtain ⟨es, hes, honce, hoff⟩ := execute_output m set d s h
    obtain ⟨es', episodes, hes', hrecounts, hheard⟩ := execute_recounts m { set with capture := true } d s
    cases List.append_cancel_left (hes.symm.trans hes')
    refine ⟨es, hes, honce, hoff, fun stream => ?_, episodes, hrecounts, hheard, fun stream => ?_⟩
    · rw [Event.flatMap_written_filter, honce.once stream]
    · rw [honce.once stream, Event.flatMap_written, hrecounts.writings]
  · intro hhook
    exact ⟨execute_ofTree_returned m { set with capture := true } hhook, runLine_emits m set hhook rec⟩

/-- With standard error passed on before an exit and standard output not, the word of the exit builtin is passed on
once, and is not in the result. -/
theorem output_once_exit :
    let set : Settings := { flushErr := true }
    let start : Shell Audit.MemoryLog := { world := {} }
    let run := execute (.idle _) { set with capture := true } (.pipeline [some ⟨[text "exit", text "3"], []⟩]) start
    run.1 = .returned (some ⟨[], [], 0⟩) (some (.exit 3)) ∧
      ∃ es, DeliveredOnce { set with capture := true } es ⟨[], [], 0⟩ ∧ es.flatMap (Event.passed .err) = text "exit\n" := by
  intro set start run
  have hend : run.1 = .returned (some ⟨[], [], 0⟩) (some (.exit 3)) := by decide +kernel
  refine ⟨hend, ?_⟩
  obtain ⟨es, hes, honce, -⟩ := (output_once (.idle _) set .memory).1 _ _ _ _ hend
  have hjournal : run.2.journal.flatMap (Event.passed .err) = text "exit\n" := by decide +kernel
  refine ⟨es, honce, ?_⟩
  rw [← hjournal]
  exact (congrArg (List.flatMap (Event.passed .err)) hes).symm

end AuditShell
