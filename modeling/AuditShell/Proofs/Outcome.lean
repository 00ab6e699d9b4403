import AuditShell.Proofs.ReadBack
import AuditShell.Proofs.Recording
import AuditShell.Proofs.Sequence
/-!
# What a recorded outcome means

A line that was run without a failure is recorded with an outcome that is taken from its code alone.
`runLine_outcome` says what the outcome means for the last pipeline of the line. An interrupt leaves the code
130, but a process may end with the status 130 too, by itself or killed by signal 2, and then the log says
`interrupted` of a pipeline that the shell has not interrupted (`runLine_blames_interrupt`). It is wrong in no
other case (`Meant.faithful`).
-/
namespace AuditShell

variable {σ : Type}

/-! ## Outcomes and codes -/

theorem Outcome.name_injective {o o' : Outcome} (h : o.name = o'.name) : o = o' := by
  revert h
  cases o <;> cases o' <;> decide

theorem lineOutcome_cases (r : Result) :
    (r.exitCode = 0 ∧ lineOutcome (some r) none = .ok) ∨
      (r.exitCode = 130 ∧ lineOutcome (some r) none = .interrupted) ∨
      (r.exitCode ≠ 0 ∧ r.exitCode ≠ 130 ∧ lineOutcome (some r) none = .failed) := by
  unfold lineOutcome
  by_cases hok : r.exitCode = 0
  · exact .inl ⟨hok, if_pos hok⟩
  · by_cases hinterrupt : r.exitCode = 130
    · exact .inr (.inl ⟨hinterrupt, (if_neg hok).trans (if_pos hinterrupt)⟩)
    · exact .inr (.inr ⟨hok, hinterrupt, (if_neg hok).trans (if_neg hinterrupt)⟩)

/-- A process leaves the code of an interrupt by itself, or killed by signal 2 from elsewhere. -/
theorem Ended.status_eq_interruptCode {e : Ended} : e.status = 130 ↔ e = .code 130 ∨ e = .signal 2 := by
  cases e with
  | code n => simp [status]
  | signal number =>
    simp only [status, Ended.signal.injEq, reduceCtorEq, false_or]
    omega

/-! ## Why a pipeline has left its code -/

section

variable (m : Machine σ) (set : Settings) (p : Option Stages) (s : Shell σ)

/-- A builtin of the pipeline was used wrongly. -/
def Misused : Prop := ∃ f t, runPipeline m set p s = (.failed f, t) ∧ ∃ g ∈ f.chain, g.isUsage

/-- The pipeline ended in an interrupt, and in no usage failure, which would come before it. -/
def Interrupted : Prop :=
  ∃ f t, runPipeline m set p s = (.failed f, t) ∧ (∀ g ∈ f.chain, g.isUsage = false) ∧ ∃ g ∈ f.chain, g.isInterrupted

/-- The processes of the pipeline have ended, the last one like this by what the machine answers. -/
inductive LastEnded (e : Ended) : Prop where
  | intro {cs : Stages} {pipeline : Pipeline} {q : Plumbing} {t u v : Shell σ} {launches : List (Nat × Launch)}
      {ends : List Ended} (hp : p = some cs)
      (hstarted : startStages m set cs {} (s.note (.pipeline (Pipeline.render pipeline))) = (.started, q, u))
      (hlaunches : u.launches = s.launches ++ launches) (hawaited : Awaited m set (launches.map Prod.fst) u ends v)
      (hlast : ends.getLast? = some e) (hrun : runPipeline m set p s = (.code e.status, t)) : LastEnded e

variable {m set p s}

theorem Coded.of_misused {n : Int} {t : Shell σ} (h : Coded m set p s n t) (hp : Misused m set p s) : n = 1 := by
  obtain ⟨f, u, hrun, g, hg, husage⟩ := hp
  cases h with
  | ended _ _ _ _ _ _ hrun' => cases hrun.symm.trans hrun'
  | usage => rfl
  | interrupted hrun' hnone =>
    cases hrun.symm.trans hrun'
    rw [hnone g hg] at husage
    cases husage

theorem Coded.of_interrupted {n : Int} {t : Shell σ} (h : Coded m set p s n t) (hp : Interrupted m set p s) :
    n = 130 := by
  obtain ⟨f, u, hrun, hnone, -⟩ := hp
  cases h with
  | ended _ _ _ _ _ _ hrun' => cases hrun.symm.trans hrun'
  | usage hrun' husage =>
    cases hrun.symm.trans hrun'
    obtain ⟨g, hg, husage⟩ := husage
    rw [hnone g hg] at husage
    cases husage
  | interrupted => rfl

theorem Coded.of_lastEnded {n : Int} {t : Shell σ} {e : Ended} (h : Coded m set p s n t)
    (hp : LastEnded m set p s e) : n = e.status := by
  obtain ⟨-, -, -, -, -, hrun⟩ := hp
  cases h with
  | ended _ _ _ _ _ _ hrun' =>
    cases hrun.symm.trans hrun'
    rfl
  | usage hrun' => cases hrun.symm.trans hrun'
  | interrupted hrun' => cases hrun.symm.trans hrun'

theorem LastEnded.not_interrupted {e : Ended} (h : LastEnded m set p s e) : ¬ Interrupted m set p s := by
  rintro ⟨f, u, hrun, -⟩
  obtain ⟨-, -, -, -, -, hrun'⟩ := h
  cases hrun.symm.trans hrun'

/-- A pipeline has left its code because a builtin was used wrongly, because of an interrupt, or as the status
of its last process; the code is 0 where it has started none. -/
theorem Coded.cause {n : Int} {t : Shell σ} (h : Coded m set p s n t) :
    Misused m set p s ∨ Interrupted m set p s ∨ (∃ e, LastEnded m set p s e) ∨ n = 0 := by
  cases h with
  | @ended cs pipeline q n t u v launches ends hp hstarted hlaunches hawaited hclosed hcode hrun =>
    cases hlast : ends.getLast? with
    | none =>
      rw [hlast] at hcode
      exact .inr (.inr (.inr hcode))
    | some e =>
      rw [hlast] at hcode
      cases hcode
      exact .inr (.inr (.inl ⟨e, hp, hstarted, hlaunches, hawaited, hlast, hrun⟩))
  | usage hrun husage => exact .inl ⟨_, _, hrun, husage⟩
  | interrupted hrun hnone hinterrupted => exact .inr (.inl ⟨_, _, hrun, hnone, hinterrupted⟩)

variable (m set p s)

/-- What the outcome of a line says about its last pipeline, which was run from `s` and has left a code. -/
structure Meant (code : Int) (outcome : Bytes) : Prop where
  told : outcome = (if code = 0 then Outcome.ok else if code = 130 then .interrupted else .failed).name
  ok : outcome = Outcome.ok.name ↔ code = 0
  interrupted : outcome = Outcome.interrupted.name ↔
    Interrupted m set p s ∨ LastEnded m set p s (.code 130) ∨ LastEnded m set p s (.signal 2)
  failed : outcome = Outcome.failed.name ↔
    Misused m set p s ∨ ∃ e, LastEnded m set p s e ∧ e.status ≠ 0 ∧ e ≠ .code 130 ∧ e ≠ .signal 2
  /-- An interrupt is told from a failure, unless a process has ended as if by an interrupt. -/
  faithful : ((outcome = Outcome.interrupted.name ↔ Interrupted m set p s) ∧
      (outcome = Outcome.failed.name ↔ ¬ Interrupted m set p s ∧ code ≠ 0)) ↔
    ¬ LastEnded m set p s (.code 130) ∧ ¬ LastEnded m set p s (.signal 2)

variable {m set p s}

theorem outcome_code (r : Result) :
    ((lineOutcome (some r) none).name = Outcome.ok.name ↔ r.exitCode = 0) ∧
      ((lineOutcome (some r) none).name = Outcome.interrupted.name ↔ r.exitCode = 130) ∧
      ((lineOutcome (some r) none).name = Outcome.failed.name ↔ r.exitCode ≠ 0 ∧ r.exitCode ≠ 130) := by
  have hname (o : Outcome) : (lineOutcome (some r) none).name = o.name ↔ lineOutcome (some r) none = o :=
    ⟨Outcome.name_injective, congrArg Outcome.name⟩
  rw [hname, hname, hname]
  rcases lineOutcome_cases r with ⟨hcode, ho⟩ | ⟨hcode, ho⟩ | ⟨hcode, hcode', ho⟩
  · simp [ho, hcode]
  · simp [ho, hcode]
  · simp [ho, hcode, hcode']

theorem Coded.meant {r : Result} {t : Shell σ} (h : Coded m set p s r.exitCode t) :
    Meant m set p s r.exitCode (lineOutcome (some r) none).name := by
  obtain ⟨hok, hinterrupted, hfailed⟩ := outcome_code r
  have hstatus {e : Ended} (he : LastEnded m set p s e) : r.exitCode = 130 ↔ e = .code 130 ∨ e = .signal 2 := by
    rw [h.of_lastEnded he, Ended.status_eq_interruptCode]
  have hwhy : r.exitCode = 130 ↔
      Interrupted m set p s ∨ LastEnded m set p s (.code 130) ∨ LastEnded m set p s (.signal 2) := by
    constructor
    · intro hcode
      rcases h.cause with hp | hp | ⟨e, hp⟩ | hzero
      · have hone := h.of_misused hp
        omega
      · exact .inl hp
      · rcases (hstatus hp).1 hcode with rfl | rfl
        · exact .inr (.inl hp)
        · exact .inr (.inr hp)
      · omega
    · rintro (hp | hp | hp)
      · exact h.of_interrupted hp
      · exact (hstatus hp).2 (.inl rfl)
      · exact (hstatus hp).2 (.inr rfl)
  refine ⟨rfl, hok, hinterrupted.trans hwhy, hfailed.trans ⟨?_, ?_⟩, ?_⟩
  · rintro ⟨hzero, hcode⟩
    rcases h.cause with hp | hp | ⟨e, hp⟩ | hzero'
    · exact .inl hp
    · exact absurd (h.of_interrupted hp) hcode
    · have hnone := not_or.1 (mt (hstatus hp).2 hcode)
      exact .inr ⟨e, hp, h.of_lastEnded hp ▸ hzero, hnone⟩
    · exact absurd hzero' hzero
  · rintro (hp | ⟨e, hp, hzero, hcode⟩)
    · have hone := h.of_misused hp
      omega
    · exact ⟨h.of_lastEnded hp ▸ hzero, mt (hstatus hp).1 (not_or.2 hcode)⟩
  · rw [hinterrupted, hfailed]
    constructor
    · rintro ⟨htold, -⟩
      refine ⟨fun hp => hp.not_interrupted (htold.1 ?_), fun hp => hp.not_interrupted (htold.1 ?_)⟩
      · exact (hstatus hp).2 (.inl rfl)
      · exact (hstatus hp).2 (.inr rfl)
    · rintro ⟨hnone, hnone'⟩
      have htold : r.exitCode = 130 ↔ Interrupted m set p s := by
        rw [hwhy]
        simp [hnone, hnone']
      exact ⟨htold, by rw [← htold]; exact And.comm⟩

end

/-! ## Lines -/

section

variable (m : Machine σ) (set : Settings)

theorem runSequence_ne_code {p : Option Stages} {s u : Shell σ} (h : (runPipeline m set p s).1.Stops)
    (ps : List (Option Stages)) (code n : Int) : runSequence m set (p :: ps) code s ≠ (.code n, u) := by
  intro hrun
  have hcode : (runPipeline m set p s).1 = .code n :=
    congrArg Prod.fst ((runSequence_cons_of_stops m set rfl h ps code).symm.trans hrun)
  rw [hcode] at h
  exact h

theorem exists_passes_last {before : List (Option Stages)} {p : Option Stages} {s u : Shell σ} {code n : Int}
    (h : runSequence m set (before ++ [p]) code s = (.code n, u)) :
    ∃ ns t, Passes m set before s ns t ∧ Coded m set p t n u := by
  rcases passes_or_stops m set before s with ⟨ns, t, hbefore⟩ | ⟨first, q, after, ns, t, rfl, hfirst, hstops⟩
  · rw [hbefore.runSequence_append] at h
    rcases coded_or_stops m set p t with ⟨k, v, hp⟩ | hstops
    · rw [runSequence_cons_of_coded m set hp] at h
      cases h
      exact ⟨ns, t, hbefore, hp⟩
    · exact absurd h (runSequence_ne_code m set hstops [] _ n)
  · rw [List.append_assoc, List.cons_append, hfirst.runSequence_append] at h
    exact absurd h (runSequence_ne_code m set hstops _ _ n)

/-- The line was read, and the shell `t` is the one in which its last pipeline `p` began, after the others
had each left a code. -/
def LastBegun (line : Bytes) (s : Shell σ) (p : Pipeline) (t : Shell σ) : Prop :=
  ∃ tree before ns, Tree.ofLine line = .ok tree ∧ tree.pipelines = before ++ [p] ∧
    Passes m set (before.map fun q => some (Stages.ofPipeline q))
      ((s.note (.parsed line tree.dump)).cleared m set) ns t

theorem attempt_no_result {line : Bytes} {e : SyntaxError} (h : Tree.ofLine line = .error e) (s : Shell σ)
    (commands : Option (List Bytes)) (r : Result) (error : Option LineError) :
    (attempt m set line s).1 ≠ .done commands (some r) error := by
  unfold Tree.ofLine at h
  unfold attempt
  cases hscan : Token.scan line with
  | error e => simp
  | ok tokens =>
    simp only [hscan] at h
    cases htokens : Tree.ofTokens tokens with
    | error e =>
      dsimp only
      split <;> simp [htokens]
    | ok tree => simp [htokens] at h

theorem coded_of_attempt {line : Bytes} {s : Shell σ} {commands : Option (List Bytes)} {r : Result}
    (h : (attempt m set line s).1 = .done commands (some r) none) :
    ∃ p t u, LastBegun m set line s p t ∧ Coded m set (some (Stages.ofPipeline p)) t r.exitCode u := by
  cases htree : Tree.ofLine line with
  | error e => exact absurd h (attempt_no_result m set htree s commands r none)
  | ok tree =>
    obtain ⟨⟨-, hne, -⟩, -⟩ := Tree.ofLine_ok htree
    have hsplit := List.dropLast_append_getLast hne
    rw [attempt_ofTree m set line htree, Draft.execute_eq m set (Draft.pipelines_ofTree tree)] at h
    dsimp only at h
    rcases hrun : runSequence m set (tree.pipelines.map fun p => some (Stages.ofPipeline p)) 0
      ((s.note (.parsed line tree.dump)).cleared m set) with ⟨n | f | code | _, u⟩
    · rw [hrun] at h
      cases h
      rw [← hsplit, List.map_append] at hrun
      obtain ⟨ns, t, hbefore, hlast⟩ := exists_passes_last m set hrun
      exact ⟨_, t, u, ⟨tree, _, ns, htree, hsplit.symm, hbefore⟩, hlast⟩
    · rw [hrun] at h
      cases h
    · rw [hrun] at h
      cases h
    · rw [hrun] at h
      cases h

/-- A line that is run without a failure has one entry in a log that can be written, with its code, and the
outcome in the entry says how the last pipeline has ended. Only where the last process has ended as if by an
interrupt it does not tell an interrupt from a failure. -/
theorem runLine_outcome (rec : Recorder σ) {s : Session σ} {l : Audit.Logger} {line : Bytes} {r : Result}
    (hl : s.logger = some l) (hworks : rec.Works l.path (attempt m set line s.shell).2.world)
    (hrun : (runLine m set rec line s).1 = .returned (some r) none) :
    ∃ (e : Audit.Entry) (stored : Bytes) (p : Pipeline) (t : Shell σ),
      runLine (m.beside _) set rec.noted line (s.beside []) =
        (.returned (some r) none, (runLine m set rec line s).2.beside [(l.path, stored ++ [0x0A])]) ∧
      e.encode = some stored ∧ e.line = line ∧ e.exitCode = r.exitCode ∧
      LastBegun m set line s.shell p t ∧ Meant m set (some (Stages.ofPipeline p)) t r.exitCode e.outcome := by
  have hnoted : attempt (m.beside _) set line (s.beside []).shell = _ :=
    attempt_map set line (m.beside_hom ([] : List (Bytes × Bytes))) s.shell
  have hdone (commands : Option (List Bytes)) (h : (attempt m set line s.shell).1 = .done commands (some r) none) :=
    coded_of_attempt m set h
  rw [runLine_eq] at hrun
  rw [runLine_eq, runLine_eq, hnoted]
  generalize attempt m set line s.shell = a at hworks hrun hdone ⊢
  obtain ⟨_ | code | _ | ⟨commands, result, error⟩, shell⟩ := a
  · cases hrun
  · cases hrun
  · cases hrun
  · cases hrun
    obtain ⟨p, t, u, hbegun, hcoded⟩ := hdone commands rfl
    obtain ⟨stored, hstored, hnoted, -, -⟩ := record_noted (s := { s with shell }) hl hworks
      (lineRecord line commands (some r) none (elapsed (rec.now s.shell.world) (rec.now shell.world)) (m.cwd s.shell.world))
    exact ⟨_, stored, p, t, Prod.ext rfl hnoted, hstored, rfl, rfl, hbegun, hcoded.meant⟩

end

/-- The machine on which every process ends like this. -/
def Machine.ending (σ : Type) (e : Ended) : Machine σ := { Machine.idle σ with wake := fun _ _ _ w => (.exit (.ok e), w) }

/-- A line of two pipelines whose processes end with the status 3. -/
theorem runLine_outcome_failed : ∃ (e : Audit.Entry) (p : Pipeline) (t : Shell Audit.MemoryLog),
    LastBegun (.ending _ (.code 3)) {} (text "make; make test") Session.memory.shell p t ∧
      Meant (.ending _ (.code 3)) {} (some (Stages.ofPipeline p)) t 3 e.outcome ∧ e.outcome = text "failed" := by
  have hworld : (attempt (.ending _ (.code 3)) {} (text "make; make test") Session.memory.shell).2.world = {} := by
    decide +kernel
  have hrun : (runLine (.ending _ (.code 3)) {} .memory (text "make; make test") .memory).1 =
      .returned (some ⟨[], [], 3⟩) none := by decide +kernel
  obtain ⟨e, -, p, t, -, -, -, -, hbegun, hmeant⟩ := runLine_outcome (.ending _ (.code 3)) {} .memory (s := .memory) rfl
    (hworld ▸ Recorder.memory_works (text "log")) hrun
  exact ⟨e, p, t, hbegun, hmeant, hmeant.told⟩

/-- A process ends with the status 130, and nothing has interrupted its pipeline. -/
theorem runLine_blames_interrupt :
    let m := Machine.ending Audit.MemoryLog (.code 130)
    let line := text "sh -c 'exit 130'"
    let p : Pipeline := [⟨[text "sh", text "-c", text "exit 130"], []⟩]
    let run := runLine m {} { Recorder.memory with hash := fun _ => text "h" } line .memory
    (∃ t, LastBegun m {} line Session.memory.shell p t ∧ ¬ Interrupted m {} (some (Stages.ofPipeline p)) t) ∧
      (∃ r, run.1 = .returned (some r) none ∧ r.exitCode = 130) ∧
      (Audit.Log.entries (run.2.shell.world.content.getD [])).map Audit.Entry.outcome = [text "interrupted"] := by
  intro m line p run
  let t := (Session.memory.shell.note (.parsed line (Tree.pipeline p).dump)).cleared m {}
  have hread : Tree.ofLine line = .ok (.pipeline p) := by decide +kernel
  have hcode : (runPipeline m {} (some (Stages.ofPipeline p)) t).1 = .code 130 := by decide +kernel
  refine ⟨⟨t, ⟨.pipeline p, [], [], hread, rfl, .nil⟩, ?_⟩, ⟨⟨[], [], 130⟩, by decide +kernel, rfl⟩, by decide +kernel⟩
  rintro ⟨f, u, hfailed, -⟩
  rw [hfailed] at hcode
  cases hcode

end AuditShell
