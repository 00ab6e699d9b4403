import AuditShell.Proofs.Exit
import AuditShell.Proofs.Ledger
/-!
# Pipelines one after another

A line runs its pipelines from left to right. A pipeline leaves a code, after a usage failure and after an
interrupt too, and the line goes on in the state that it left (`Coded`, `Passes`). Any other failure stops the
line, and so does the end of the shell; what comes behind is not begun then. So a line falls into parts
wherever it is cut (`runSequence_append_cases`).
-/

namespace AuditShell

variable {σ : Type}

/-! ## What pipelines leave -/

/-- A failure ends its line: neither it nor a failure that it stands around is a usage failure or an
interrupt. -/
def Failure.Fatal (f : Failure) : Prop := ∀ g ∈ f.chain, g.isUsage = false ∧ g.isInterrupted = false

theorem Failure.fatal_iff {f : Failure} :
    f.Fatal ↔ f.chain.any isUsage = false ∧ f.chain.any isInterrupted = false := by
  simp only [Fatal, List.any_eq_false, Bool.not_eq_true, forall_and]

theorem recoverable_eq_none_iff {f : Failure} : recoverable f = none ↔ f.Fatal := by
  rw [Failure.fatal_iff]
  unfold recoverable
  cases f.chain.any Failure.isUsage <;> cases f.chain.any Failure.isInterrupted <;> simp

/-- A pipeline that ends like this stops its line. -/
def PipelineEnd.Stops : PipelineEnd → Prop
  | .code _ => False
  | .failed f => f.Fatal
  | .terminated _ => True
  | .crashed => True

/-- The end of a process that is known when a wait is over. -/
def WakeView.ended? : WakeView → Option Ended
  | .exit (.ok e) => some e
  | .signal _ (some (.ok e)) => some e
  | _ => none

section

variable (m : Machine σ) (set : Settings)

/-- Processes were waited for in order, from one shell to another, and have ended like this by what the
machine answers. -/
inductive Awaited : List Nat → Shell σ → List Ended → Shell σ → Prop where
  | nil {s : Shell σ} : Awaited [] s [] s
  | cons {process : Nat} {ps : List Nat} {s t u : Shell σ} {e : Ended} {es : List Ended}
      (hanswer : (s.answer m set process).ended? = some e) (hawait : await m set process s = (.ok e, t))
      (hrest : Awaited ps t es u) : Awaited (process :: ps) s (e :: es) u

/-- A pipeline was run from one shell to another, and its line goes on with this code. -/
inductive Coded (p : Option Stages) (s : Shell σ) : Int → Shell σ → Prop where
  /-- All its stages were started, and the processes that they have spawned have ended since: the status of
  the last one, or 0 where there is none. -/
  | ended {cs : Stages} {pipeline : Pipeline} {q : Plumbing} {n : Int} {t u v : Shell σ}
      {launches : List (Nat × Launch)} {ends : List Ended} (hp : p = some cs)
      (hstarted : startStages m set cs {} (s.note (.pipeline (Pipeline.render pipeline))) = (.started, q, u))
      (hlaunches : u.launches = s.launches ++ launches) (hawaited : Awaited m set (launches.map Prod.fst) u ends v)
      (hclosed : t = closeAll m q v) (hcode : n = (ends.getLast?.map Ended.status).getD 0)
      (hrun : runPipeline m set p s = (.code n, t)) : Coded p s n t
  | usage {f : Failure} {t : Shell σ} (hrun : runPipeline m set p s = (.failed f, t))
      (husage : ∃ g ∈ f.chain, g.isUsage) : Coded p s 1 (t.note (.builtinFailed f))
  | interrupted {f : Failure} {t : Shell σ} (hrun : runPipeline m set p s = (.failed f, t))
      (husage : ∀ g ∈ f.chain, g.isUsage = false) (hinterrupted : ∃ g ∈ f.chain, g.isInterrupted) :
      Coded p s 130 (t.note (.pipelineInterrupted f))

/-- Pipelines were run one after another, from one shell to another, and each has left its code. -/
inductive Passes : List (Option Stages) → Shell σ → List Int → Shell σ → Prop where
  | nil {s : Shell σ} : Passes [] s [] s
  | cons {p : Option Stages} {ps : List (Option Stages)} {s t u : Shell σ} {n : Int} {ns : List Int}
      (hp : Coded m set p s n t) (hps : Passes ps t ns u) : Passes (p :: ps) s (n :: ns) u

/-! ## Processes that are spawned and waited for -/

theorem await_answer {process : Nat} {s t : Shell σ} {e : Ended} (h : await m set process s = (.ok e, t)) :
    (s.answer m set process).ended? = some e := by
  rw [await_eq] at h
  unfold Shell.answer
  dsimp only at h ⊢
  generalize (m.wake process _ _ _).1.view = view at h ⊢
  match view with
  | .exit (.ok e) => cases h; rfl
  | .exit (.error e) => cases h
  | .signal sig (some (.ok e)) => cases h; rfl
  | .signal sig (some (.error e)) => cases h
  | .signal sig none => cases h
  | .cancel => cases h

/-- Waiting for processes that all end gives the end of the last one. -/
theorem awaited_of_awaitAll {ps : List Nat} {last r : Option Ended} {s t : Shell σ}
    (h : awaitAll m set ps last s = (.ok r, t)) : ∃ es, Awaited m set ps s es t ∧ r = es.getLast?.or last := by
  induction ps generalizing last s with
  | nil =>
    cases h
    exact ⟨[], .nil, rfl⟩
  | cons p ps ih =>
    unfold awaitAll at h
    rcases hawait : await m set p s with ⟨f | e, u⟩
    · rw [hawait] at h
      cases h
    · rw [hawait] at h
      obtain ⟨es, hes, hr⟩ := ih h
      refine ⟨e :: es, .cons (await_answer m set hawait) hawait hes, ?_⟩
      rw [hr, List.getLast?_cons]
      cases es.getLast? <;> rfl

/-- What was started since is what the plumbing has got since. -/
def Spawns (p : Plumbing) (s : Shell σ) (r : StageEnd × Plumbing × Shell σ) : Prop :=
  ∃ launches, r.2.2.launches = s.launches ++ launches ∧ r.2.1.processes = p.processes ++ launches.map Prod.fst

theorem Shell.Grows.launches_eq {s t : Shell σ} (h : s.Grows (fun e => e.launch? = none) t) : t.launches = s.launches := by
  obtain ⟨es, hes, hP⟩ := h
  unfold Shell.launches
  rw [hes, List.filterMap_append, List.filterMap_eq_nil_iff.2 hP, List.append_nil]

theorem Shell.Grows.quiet_launches {s t : Shell σ} (h : s.Grows (·.quiet) t) : t.launches = s.launches :=
  (h.mono fun _ he => Event.quiet.launch? he).launches_eq

theorem spawns_startCommand (c : Command) (stdin : Source) (stdout : Sink) (p : Plumbing) (s : Shell σ) :
    Spawns p s (startCommand m set c stdin stdout p s) := by
  have hopened := (grows_openRedirects m c s).quiet_launches
  unfold startCommand
  generalize openRedirects m c s = r at hopened ⊢
  obtain ⟨f | o, t⟩ := r
  · exact ⟨[], by simpa using hopened, by simp⟩
  cases set.registry.lookup c.name with
  | none =>
    unfold spawnStage
    dsimp only
    rcases m.spawn t.fresh _ t.world with ⟨_ | e, w⟩
    · refine ⟨[(t.fresh, ⟨c.words, (o.input.map Source.file).getD stdin, (o.output.map Sink.file).getD stdout, .err⟩)], ?_, by simp⟩
      rw [← hopened]
      simp [Shell.launches, Shell.note, Event.launch?]
    · exact ⟨[], hopened.trans (List.append_nil _).symm, by simp⟩
  | some b =>
    have hnoted : t.Grows (fun e => e.launch? = none) (t.note (.builtin c.name c.args)) := .note (.of_eq rfl) rfl
    have hran := (stays_runAction m.leaves_unit set (b.run c.args) (t.note (.builtin c.name c.args))).journal
    have hlaunches := (hnoted.trans (hran.mono fun _ he => Event.OfBuiltin.launch? he)).launches_eq.trans hopened
    dsimp only
    generalize runAction m set (b.run c.args) (t.note (.builtin c.name c.args)) = r at hlaunches ⊢
    obtain ⟨(_ | f) | code, u⟩ := r
    · exact ⟨[], by simpa using hlaunches, by simp⟩
    · exact ⟨[], by simpa using hlaunches, by simp⟩
    · exact ⟨[], by simpa using hlaunches, by simp⟩

theorem spawns_passOn {p : Plumbing} {s : Shell σ} {r : StageEnd × Plumbing × Shell σ} (writer : Option Nat)
    (h : Spawns p s r) : Spawns p s (passOn m writer r) := by
  obtain ⟨launches, hlaunches, hprocesses⟩ := h
  obtain ⟨e, q, t⟩ := r
  have hover := (grows_handOver m writer q t).quiet_launches
  cases e with
  | started => exact ⟨launches, hover.trans hlaunches, hprocesses⟩
  | failed f => exact ⟨launches, hover.trans hlaunches, hprocesses⟩
  | terminated code => exact ⟨launches, hlaunches, hprocesses⟩

theorem spawns_startStage (last : Bool) (c : Command) (p : Plumbing) (s : Shell σ) :
    Spawns p s (startStage m set last c p s) := by
  rw [startStage_eq]
  split
  · exact spawns_passOn m none (spawns_startCommand m set c _ _ p s)
  · rcases m.makePipe s.fresh s.world with ⟨_ | e, w⟩
    · obtain ⟨launches, hlaunches, hprocesses⟩ := spawns_startCommand m set c ((p.reader.map Source.pipe).getD .shell)
        (.pipe s.fresh) p ({ s with world := w, fresh := s.fresh + 1 }.note (.piped s.fresh))
      have hpiped : ({ s with world := w, fresh := s.fresh + 1 }.note (.piped s.fresh) : Shell σ).launches = s.launches := by
        simp [Shell.launches, Shell.note, Event.launch?]
      rw [hpiped] at hlaunches
      exact spawns_passOn m (some s.fresh) ⟨launches, hlaunches, hprocesses⟩
    · exact ⟨[], by simp [Shell.launches], by simp⟩

theorem spawns_startStages (cs : Stages) (p : Plumbing) (s : Shell σ) : Spawns p s (startStages m set cs p s) := by
  have hnone (r : StageEnd) : Spawns p s (r, p, s) := ⟨[], by simp, by simp⟩
  induction cs generalizing p s with
  | nil => exact hnone .started
  | cons c cs ih =>
    cases c with
    | none => exact hnone _
    | some c =>
      unfold startStages
      dsimp only
      split
      · exact hnone _
      · obtain ⟨launches, hlaunches, hprocesses⟩ := spawns_startStage m set cs.isEmpty c p s
        generalize startStage m set cs.isEmpty c p s = r at hlaunches hprocesses ⊢
        obtain ⟨_ | f | code, q, t⟩ := r
        · obtain ⟨launches', hlaunches', hprocesses'⟩ := ih q t fun r => ⟨[], by simp, by simp⟩
          refine ⟨launches ++ launches', ?_, ?_⟩
          · rw [hlaunches', hlaunches, List.append_assoc]
          · rw [hprocesses', hprocesses, List.map_append, List.append_assoc]
        · exact ⟨launches, hlaunches, hprocesses⟩
        · exact ⟨launches, hlaunches, hprocesses⟩

/-! ## The code of a pipeline -/

theorem coded_of_code {p : Option Stages} {s t : Shell σ} {n : Int} (h : runPipeline m set p s = (.code n, t)) :
    Coded m set p s n t := by
  match p with
  | none => cases h
  | some [] => cases h
  | some (c :: cs) =>
    have hrun := h
    simp only [runPipeline] at h
    cases hp : Stages.pipeline? (c :: cs) with
    | none =>
      rw [hp] at h
      cases h
    | some pipeline =>
      rw [hp] at h
      obtain ⟨launches, hlaunches, hprocesses⟩ :=
        spawns_startStages m set (c :: cs) {} (s.note (.pipeline (Pipeline.render pipeline)))
      have hnoted : (s.note (.pipeline (Pipeline.render pipeline))).launches = s.launches := by
        simp [Shell.launches, Shell.note, Event.launch?]
      rw [hnoted] at hlaunches
      dsimp only [runStages] at h
      rcases hstarted : startStages m set (c :: cs) {} (s.note (.pipeline (Pipeline.render pipeline))) with
        ⟨_ | f | code, q, u⟩
      · rw [hstarted] at h hlaunches hprocesses
        rcases hall : awaitAll m set q.processes none u with ⟨f | last, v⟩
        · simp only [hall] at h
          cases h
        · simp only [hall] at h
          obtain ⟨ends, hawaited, hlast⟩ := awaited_of_awaitAll m set hall
          rw [hprocesses, List.nil_append] at hawaited
          rw [Option.or_none] at hlast
          cases h
          exact .ended rfl hstarted hlaunches hawaited rfl (by rw [hlast]) hrun
      · rw [hstarted] at h
        cases h
      · rw [hstarted] at h
        cases h

theorem coded_of_recoverable {p : Option Stages} {s t : Shell σ} {f : Failure} {r : Int × Event}
    (h : runPipeline m set p s = (.failed f, t)) (hr : recoverable f = some r) : Coded m set p s r.1 (t.note r.2) := by
  rcases recoverable_cases hr with ⟨husage, rfl⟩ | ⟨husage, hinterrupted, rfl⟩
  · exact .usage h (List.any_eq_true.1 husage)
  · exact .interrupted h (fun g hg => eq_false_of_ne_true (List.any_eq_false.1 husage g hg))
      (List.any_eq_true.1 hinterrupted)

/-! ## Lists of pipelines -/

theorem runSequence_cons_of_coded {p : Option Stages} {s t : Shell σ} {n : Int} (h : Coded m set p s n t)
    (ps : List (Option Stages)) (code : Int) : runSequence m set (p :: ps) code s = runSequence m set ps n t := by
  rw [runSequence]
  cases h with
  | ended _ _ _ _ _ _ hrun => rw [hrun]
  | @usage f t hrun husage =>
    have hr : recoverable f = some (1, .builtinFailed f) := if_pos (List.any_eq_true.2 husage)
    simp only [hrun, hr]
  | @interrupted f t hrun husage hinterrupted =>
    have hnone : ¬ f.chain.any Failure.isUsage := by
      rw [List.any_eq_false.2 fun g hg => ne_true_of_eq_false (husage g hg)]
      exact Bool.false_ne_true
    have hr : recoverable f = some (130, .pipelineInterrupted f) :=
      (if_neg hnone).trans (if_pos (List.any_eq_true.2 hinterrupted))
    simp only [hrun, hr]

theorem runSequence_cons_of_stops {p : Option Stages} {s t : Shell σ} {e : PipelineEnd}
    (h : runPipeline m set p s = (e, t)) (he : e.Stops) (ps : List (Option Stages)) (code : Int) :
    runSequence m set (p :: ps) code s = (e, t) := by
  rw [runSequence, h]
  cases e with
  | code n => exact he.elim
  | failed f => simp only [recoverable_eq_none_iff.2 he]
  | terminated code => rfl
  | crashed => rfl

/-- A pipeline leaves a code or stops its line. -/
theorem coded_or_stops (p : Option Stages) (s : Shell σ) :
    (∃ n t, Coded m set p s n t) ∨ (runPipeline m set p s).1.Stops := by
  rcases hrun : runPipeline m set p s with ⟨n | f | code | _, t⟩
  · exact .inl ⟨n, t, coded_of_code m set hrun⟩
  · cases hr : recoverable f with
    | none => exact .inr (recoverable_eq_none_iff.1 hr)
    | some r => exact .inl ⟨r.1, t.note r.2, coded_of_recoverable m set hrun hr⟩
  · exact .inr trivial
  · exact .inr trivial

theorem Passes.runSequence_append {ps : List (Option Stages)} {s t : Shell σ} {ns : List Int}
    (h : Passes m set ps s ns t) (qs : List (Option Stages)) (code : Int) :
    runSequence m set (ps ++ qs) code s = runSequence m set qs (ns.getLast?.getD code) t := by
  induction h generalizing code with
  | nil => rfl
  | @cons p ps s t u n ns hp hps ih =>
    rw [List.cons_append, runSequence_cons_of_coded m set hp, ih, List.getLast?_cons]
    rfl

theorem Passes.append {ps qs : List (Option Stages)} {s t u : Shell σ} {ns ns' : List Int}
    (h : Passes m set ps s ns t) (h' : Passes m set qs t ns' u) : Passes m set (ps ++ qs) s (ns ++ ns') u := by
  induction h with
  | nil => exact h'
  | cons hp hps ih => exact .cons hp (ih h')

/-- Pipelines pass, or the first of them that does not pass stops the line. -/
theorem passes_or_stops (ps : List (Option Stages)) (s : Shell σ) :
    (∃ ns t, Passes m set ps s ns t) ∨
      ∃ before p after ns t, ps = before ++ p :: after ∧ Passes m set before s ns t ∧ (runPipeline m set p t).1.Stops := by
  induction ps generalizing s with
  | nil => exact .inl ⟨[], s, .nil⟩
  | cons p ps ih =>
    rcases coded_or_stops m set p s with ⟨n, t, hp⟩ | hstops
    · rcases ih t with ⟨ns, u, hps⟩ | ⟨before, q, after, ns, u, rfl, hbefore, hstops⟩
      · exact .inl ⟨n :: ns, u, .cons hp hps⟩
      · exact .inr ⟨p :: before, q, after, n :: ns, u, rfl, .cons hp hbefore, hstops⟩
    · exact .inr ⟨[], p, ps, [], s, rfl, .nil, hstops⟩

theorem journal_runSequence (ps : List (Option Stages)) (code : Int) (s : Shell σ) :
    s.journal <+: (runSequence m set ps code s).2.journal := (exits_runSequence m set ps code s).leaves.journal

/-- How a line of the pipelines `ps ++ qs` runs, where `code` is the code of the pipeline before. -/
inductive Joined (ps qs : List (Option Stages)) (code : Int) (s : Shell σ) : Prop where
  /-- Each pipeline of `ps` leaves a code. Then `qs` runs in the state that they leave, what is written is
  what they write and then what `qs` writes, and the code is that of the last pipeline. -/
  | passes {ns : List Int} {t : Shell σ} (hps : Passes m set ps s ns t)
      (hrun : runSequence m set (ps ++ qs) code s = runSequence m set qs (ns.getLast?.getD code) t)
      (hwritten : let u := (runSequence m set (ps ++ qs) code s).2
        s.journal <+: t.journal ∧ t.journal <+: u.journal ∧
          ∀ stream, s.written stream u = s.written stream t ++ t.written stream u)
      (hcode : ∀ ns' u, Passes m set qs t ns' u →
        runSequence m set (ps ++ qs) code s = (.code ((ns ++ ns').getLast?.getD code), u))
  /-- A pipeline of `ps` stops the line, and nothing comes after it. -/
  | stops {before after : List (Option Stages)} {p : Option Stages} {ns : List Int} {t : Shell σ}
      (hps : ps = before ++ p :: after) (hbefore : Passes m set before s ns t)
      (hstops : (runPipeline m set p t).1.Stops)
      (hrun : runSequence m set (ps ++ qs) code s = runPipeline m set p t)

/-- A line runs in two parts wherever it is cut: the first pipelines, and in the state that these leave the
others, unless one of the first stops the line. A line that a failure stops returns this failure with the
code 0 and with what was collected so far. One pipeline alone is a line of one pipeline. -/
theorem runSequence_append_cases (m : Machine σ) (set : Settings) :
    (∀ (ps qs : List (Option Stages)) (code : Int) (s : Shell σ), Joined m set ps qs code s) ∧
    (∀ (ps : List (Option Stages)) (s : Shell σ),
      execute m set (.sequence ps) s =
        match runSequence m set ps 0 (s.cleared m set) with
        | (.code n, t) => (.returned (some ⟨t.capturedOut, t.capturedErr, n⟩) none, t)
        | (.failed f, t) => (.returned (some ⟨t.capturedOut, t.capturedErr, 0⟩) (some f), t)
        | (.terminated code, t) => (.terminated code, t)
        | (.crashed, t) => (.crashed, t)) ∧
    ∀ (p : Stages) (s : Shell σ), execute m set (.pipeline p) s = execute m set (.sequence [some p]) s := by
  refine ⟨fun ps qs code s => ?_, fun ps s => rfl, fun p s => rfl⟩
  rcases passes_or_stops m set ps s with ⟨ns, t, hps⟩ | ⟨before, p, after, ns, t, rfl, hbefore, hstops⟩
  · have hrun := hps.runSequence_append m set qs code
    have hfirst : s.journal <+: t.journal := by
      -- `t` is where `ps` alone ends
      have hpart := hps.runSequence_append m set [] code
      rw [List.append_nil] at hpart
      have hjournal := journal_runSequence m set ps code s
      rwa [hpart] at hjournal
    have hsecond := journal_runSequence m set qs (ns.getLast?.getD code) t
    rw [← hrun] at hsecond
    refine .passes hps hrun ⟨hfirst, hsecond, fun stream => Shell.written_append stream hfirst hsecond⟩ fun ns' u hqs => ?_
    have hall := (hps.append m set hqs).runSequence_append m set [] code
    rwa [List.append_nil] at hall
  · refine .stops rfl hbefore hstops ?_
    rw [List.append_assoc, hbefore.runSequence_append, List.cons_append]
    exact runSequence_cons_of_stops m set rfl hstops _ _

end

end AuditShell
