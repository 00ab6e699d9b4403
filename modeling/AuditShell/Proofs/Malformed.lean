import AuditShell.Proofs.Sequence
/-!
# Malformed trees

A caller may hand over a tree that no line reads as. `execute_malformed` says what becomes of each defect that a
run reaches. A root that is missing, a pipeline that is missing or empty, a command without words and a redirect
of no known kind each end the line with the failure of an operation; the children of the pipeline were waited
for by then, and nothing behind the defect has begun. A missing command is different. A pipeline is written down
for the journal before it is run, and this crashes, wherever in the pipeline the command is missing. It is the
only way in which a run can crash.
-/
namespace AuditShell

variable {σ : Type}

/-! ## Defects -/

/-- A command cannot be started: it has no words, or a redirect of no known kind. -/
inductive Command.Defect (c : Command) : Failure → Prop where
  | words (h : c.words = []) : Defect c (.runtime (text "command") .emptyCommand)
  | redirect {r : Redirect} (hwords : c.words ≠ []) (hr : c.redirects.find? (fun r => !r.kind.isKnown) = some r) :
      Defect c (.runtime (text "redirect") (.malformedRedirect r))

theorem Command.exists_defect {c : Command} (h : c.words = [] ∨ ∃ r ∈ c.redirects, r.kind.isKnown = false) :
    ∃ f, c.Defect f := by
  by_cases hwords : c.words = []
  · exact ⟨_, .words hwords⟩
  · obtain ⟨r, hr, hkind⟩ := h.resolve_left hwords
    have hfind : (c.redirects.find? fun r => !r.kind.isKnown).isSome := by
      rw [List.find?_isSome]
      exact ⟨r, hr, by simp [hkind]⟩
    obtain ⟨r', hr'⟩ := Option.isSome_iff_exists.1 hfind
    exact ⟨_, .redirect hwords hr'⟩

/-- The failure of a pipe that the machine has refused. -/
def Failure.NoPipe (f : Failure) : Prop := ∃ e, f = .runtime (text "pipe") (.os e)

theorem Failure.fatal_runtime (operation : Bytes) {cause : RuntimeCause} (h : cause.chain = []) :
    (Failure.runtime operation cause).Fatal := by
  intro g hg
  rw [Failure.chain, h, List.mem_singleton] at hg
  subst hg
  exact ⟨rfl, rfl⟩

theorem Command.Defect.fatal {c : Command} {f : Failure} (h : c.Defect f) : f.Fatal := by
  cases h with
  | words => exact Failure.fatal_runtime _ rfl
  | redirect => exact Failure.fatal_runtime _ rfl

theorem Failure.NoPipe.fatal {f : Failure} (h : f.NoPipe) : f.Fatal := by
  obtain ⟨e, rfl⟩ := h
  exact fatal_runtime _ rfl

theorem Stages.pipeline?_eq_none {cs : Stages} : cs.pipeline? = none ↔ none ∈ cs := by
  induction cs with
  | nil => simp [pipeline?]
  | cons c cs ih => cases c <;> simp [pipeline?, ih]

variable (m : Machine σ) (set : Settings)

/-! ## A command that cannot be started -/

/-- An event of a pipeline that is wound up, or its next pipe was made. -/
def Event.Settles (e : Event) : Prop := e.winding ∨ ∃ pipe, e = .piped pipe

theorem settles_handOver {s t : Shell σ} (writer : Option Nat) (p : Plumbing) (h : s.Grows Event.Settles t) :
    s.Grows Event.Settles (handOver m writer p t).2 :=
  h.trans ((winds_handOver m writer p t).mono fun _ => .inl)

theorem startCommand_defect {c : Command} {r : Redirect}
    (hr : c.redirects.find? (fun r => !r.kind.isKnown) = some r) (stdin : Source) (stdout : Sink) (p : Plumbing) (s : Shell σ) :
    startCommand m set c stdin stdout p s = (.failed (.runtime (text "redirect") (.malformedRedirect r)), p, s) := by
  have hopen : openRedirects m c s = (.error (.runtime (text "redirect") (.malformedRedirect r)), s) := by
    simp only [openRedirects, hr]
  simp only [startCommand, hopen]

/-- The stages of a pipeline from a defective command on: nothing is started, and the failure is that of the
defect, unless the pipe for the command was refused before. -/
theorem startStages_defect {c : Command} {f : Failure} (h : c.Defect f) (cs : Stages) (p : Plumbing) (s : Shell σ) :
    ∃ f' q t, startStages m set (some c :: cs) p s = (.failed f', q, t) ∧ (f' = f ∨ f'.NoPipe) ∧
      s.Grows Event.Settles t := by
  cases h with
  | words h => exact ⟨_, p, s, by simp [startStages, h], .inl rfl, .of_eq rfl⟩
  | redirect hwords hr =>
    have hstages (f' : Failure) (q : Plumbing) (t : Shell σ)
        (hstage : startStage m set cs.isEmpty c p s = (.failed f', q, t)) :
        startStages m set (some c :: cs) p s = (.failed f', q, t) := by
      simp only [startStages, hwords, if_false, hstage]
    have hstage := startStage_eq m set cs.isEmpty c p s
    simp only [startCommand_defect m set hr] at hstage
    split at hstage
    · exact ⟨_, _, _, hstages _ _ _ hstage, .inl rfl, settles_handOver m none _ (.of_eq rfl)⟩
    · split at hstage
      next e w _ => exact ⟨_, _, _, hstages _ _ _ hstage, .inr ⟨e, rfl⟩, .of_eq rfl⟩
      next w _ =>
        have hpiped : s.Grows Event.Settles (({ s with world := w, fresh := s.fresh + 1 } : Shell σ).note (.piped s.fresh)) :=
          .note (.of_eq rfl) (.inr ⟨_, rfl⟩)
        exact ⟨_, _, _, hstages _ _ _ hstage, .inl rfl, settles_handOver m (some s.fresh) _ hpiped⟩

/-! ## Pipelines -/

theorem runPipeline_closed {p : Option Stages} {s : Shell σ} (h : ∀ code, (runPipeline m set p s).1 ≠ .terminated code) :
    runPipeline m.watched set p (s.map (·, some [])) = Prod.map id (Shell.map (·, some [])) (runPipeline m set p s) ∧
      (runPipeline m set p s).2.foreground.Perm s.foreground := by
  have hmap := runPipeline_map m.watched_hom set p (s.map (·, some []))
  change runPipeline m set p s = _ at hmap
  have hholding := holding_runPipeline m set (holding_start s) p
  rw [hmap] at h ⊢
  obtain ⟨ls, hgiven⟩ := hholding h
  have hempty := hgiven.ledger.eq_empty
  generalize runPipeline m.watched set p (s.map (·, some [])) = r at hempty hgiven ⊢
  obtain ⟨e, t⟩ := r
  refine ⟨Prod.ext rfl ?_, hgiven.foreground⟩
  exact (Shell.eq_map rfl).trans (by rw [hempty]; rfl)

theorem runPipeline_crashed_iff {p : Option Stages} {s : Shell σ} :
    (runPipeline m set p s).1 = .crashed ↔ ∃ cs, p = some cs ∧ none ∈ cs := by
  match p with
  | none => simp [runPipeline]
  | some [] => simp [runPipeline]
  | some (c :: cs) =>
    cases hp : Stages.pipeline? (c :: cs) with
    | none =>
      have hmissing := Stages.pipeline?_eq_none.1 hp
      simp only [runPipeline, hp, true_iff]
      exact ⟨_, rfl, hmissing⟩
    | some pipeline =>
      have hpresent : none ∉ c :: cs := fun hmissing => by
        rw [Stages.pipeline?_eq_none.2 hmissing] at hp
        cases hp
      simp only [runPipeline, hp, runStages_ne_crashed, false_iff]
      rintro ⟨_, ⟨⟩, hmissing⟩
      exact hpresent hmissing

theorem runPipeline_missing {cs : Stages} (h : none ∈ cs) (s : Shell σ) :
    runPipeline m set (some cs) s = (.crashed, s) := by
  obtain ⟨c, cs, rfl⟩ := List.exists_cons_of_ne_nil (List.ne_nil_of_mem h)
  simp only [runPipeline, Stages.pipeline?_eq_none.2 h]

/-- A pipeline whose run reaches a defective command fails. The children that it had until then are waited for,
what it took is given back, and it begins nothing more. -/
structure Rejects (p : Option Stages) (f : Failure) (s reached : Shell σ) (run : PipelineEnd × Shell σ) : Prop where
  failure : ∃ f', run.1 = .failed f' ∧ (f' = f ∨ f'.NoPipe)
  settles : reached.Grows Event.Settles run.2
  foreground : run.2.foreground.Perm s.foreground
  closed : runPipeline m.watched set p (s.map (·, some [])) = (run.1, run.2.map (·, some []))

theorem runPipeline_defect {before : Pipeline} {c : Command} {f : Failure} (after : Pipeline) {q : Plumbing}
    {s t : Shell σ} (hreach : Reaches m set (s.note (.pipeline (Pipeline.render (before ++ c :: after)))) before q t)
    (hc : c.Defect f) :
    Rejects m set (some (Stages.ofPipeline (before ++ c :: after))) f s t
      (runPipeline m set (some (Stages.ofPipeline (before ++ c :: after))) s) := by
  obtain ⟨f', q', u, hstages, hf, hsettles⟩ := startStages_defect m set hc (Stages.ofPipeline after) q t
  have hstarted := (hreach.startStages_eq c after).trans hstages
  have hrun : runPipeline m set (some (Stages.ofPipeline (before ++ c :: after))) s =
      (.failed f', closeAll m q' (reapAll m set q'.processes u)) := by
    have hp := Stages.pipeline?_ofPipeline (before ++ c :: after)
    have hne : Stages.ofPipeline (before ++ c :: after) ≠ [] := by simp [Stages.ofPipeline]
    generalize Stages.ofPipeline (before ++ c :: after) = cs at hp hne hstarted
    obtain ⟨d, cs, rfl⟩ := List.exists_cons_of_ne_nil hne
    simp only [runPipeline, hp, runStages, hstarted]
  have hclosed := runPipeline_closed m set (p := some (Stages.ofPipeline (before ++ c :: after))) (s := s) (by simp [hrun])
  rw [hrun] at hclosed ⊢
  have hwound := (winds_reapAll m set q'.processes u).trans (winds_closeAll m q' _)
  exact ⟨⟨f', rfl, hf⟩, hsettles.trans (hwound.mono fun _ => .inl), hclosed.2, hclosed.1⟩

/-! ## Trees -/

theorem execute_of_stops {d : Draft} {before after : List (Option Stages)} {p : Option Stages} {ns : List Int}
    {s t : Shell σ} (hd : d.pipelines = .ok (before ++ p :: after)) (hbefore : Passes m set before (s.cleared m set) ns t)
    (hstops : (runPipeline m set p t).1.Stops) :
    execute m set d s = ((runPipeline m set p t).1.line (runPipeline m set p t).2, (runPipeline m set p t).2) := by
  have hrun : runSequence m set (p :: after) (ns.getLast?.getD 0) t = runPipeline m set p t :=
    runSequence_cons_of_stops m set rfl hstops after _
  rw [Draft.execute_eq m set hd, hbefore.runSequence_append, hrun]

theorem exists_missing_of_crashed {d : Draft} {s : Shell σ} (h : (execute m set d s).1 = .crashed) :
    ∃ before cs after ns t, d.pipelines = .ok (before ++ some cs :: after) ∧
      Passes m set before (s.cleared m set) ns t ∧ none ∈ cs := by
  cases hd : d.pipelines with
  | error c =>
    rw [Draft.execute_error m set hd] at h
    cases h
  | ok ps =>
    rcases passes_or_stops m set ps (s.cleared m set) with ⟨ns, t, hps⟩ | ⟨before, p, after, ns, t, rfl, hbefore, hstops⟩
    · have hrun := hps.runSequence_append m set [] 0
      rw [List.append_nil] at hrun
      rw [Draft.execute_eq m set hd, hrun] at h
      cases h
    · rw [execute_of_stops m set hd hbefore hstops] at h
      have hcrashed : (runPipeline m set p t).1 = .crashed := by
        dsimp only at h
        generalize (runPipeline m set p t).1 = e at h ⊢
        cases e <;> cases h
        rfl
      obtain ⟨cs, rfl, hmissing⟩ := (runPipeline_crashed_iff m set).1 hcrashed
      exact ⟨before, cs, after, ns, t, rfl, hbefore, hmissing⟩

/-- What a run makes of a tree with a defect. Without a root nothing is run. In a line of pipelines, a run that has
come to a pipeline that is missing or empty ends there. Where it has come to a command without words, or with a
redirect of no known kind, the pipeline fails and the line ends with it. Where a pipeline has a missing command
the run crashes before any of it is started, and a run crashes in no other way. -/
theorem execute_malformed (d : Draft) (s : Shell σ) :
    (∀ c, d.pipelines = .error c →
      execute m set d s = (.returned none (some (.runtime (text "execute") c)), s.ready m set)) ∧
    (∀ (before after : List (Option Stages)) (p : Option Stages) (ns : List Int) (t : Shell σ),
      d.pipelines = .ok (before ++ p :: after) → Passes m set before (s.cleared m set) ns t →
      (p = none ∨ p = some [] →
        execute m set d s = (.returned (some (t.result 0)) (some (.runtime (text "pipeline") .emptyPipeline)), t)) ∧
      (∀ (first rest : Pipeline) (c : Command) (q : Plumbing) (u : Shell σ),
        p = some (Stages.ofPipeline (first ++ c :: rest)) →
        Reaches m set (t.note (.pipeline (Pipeline.render (first ++ c :: rest)))) first q u →
        (c.words = [] ∨ ∃ r ∈ c.redirects, r.kind.isKnown = false) →
        ∃ f f' v, c.Defect f ∧ Rejects m set p f t u (.failed f', v) ∧
          execute m set d s = (.returned (some (v.result 0)) (some f'), v)) ∧
      (∀ cs, p = some cs → none ∈ cs → execute m set d s = (.crashed, t))) ∧
    ((execute m set d s).1 = .crashed → ∃ before cs after ns t, d.pipelines = .ok (before ++ some cs :: after) ∧
      Passes m set before (s.cleared m set) ns t ∧ none ∈ cs) := by
  refine ⟨fun c hd => Draft.execute_error m set hd s, fun before after p ns t hd hbefore => ⟨?_, ?_, ?_⟩,
    exists_missing_of_crashed m set⟩
  · intro hp
    have hrun : runPipeline m set p t = (.failed (.runtime (text "pipeline") .emptyPipeline), t) := by
      rcases hp with rfl | rfl <;> rfl
    have hfatal : (Failure.runtime (text "pipeline") .emptyPipeline).Fatal := Failure.fatal_runtime _ rfl
    rw [execute_of_stops m set hd hbefore (by rw [hrun]; exact hfatal), hrun]
    rfl
  · rintro first rest c q u rfl hreach hc
    obtain ⟨f, hf⟩ := Command.exists_defect hc
    have hrejects := runPipeline_defect m set rest hreach hf
    obtain ⟨f', hfailed, hf'⟩ := hrejects.failure
    have hfatal : f'.Fatal := by
      rcases hf' with rfl | hpipe
      · exact hf.fatal
      · exact hpipe.fatal
    have hexecute := execute_of_stops m set hd hbefore (by rw [hfailed]; exact hfatal)
    generalize runPipeline m set (some (Stages.ofPipeline (first ++ c :: rest))) t = run at hrejects hfailed hexecute
    obtain ⟨e, v⟩ := run
    cases hfailed
    exact ⟨f, f', v, hf, hrejects, hexecute⟩
  · rintro cs rfl hmissing
    have hrun := runPipeline_missing m set hmissing t
    rw [execute_of_stops m set hd hbefore (by rw [hrun]; exact trivial), hrun]
    rfl

/-- In `true; a | b ? f; c`, where `?` is no redirect, `a` is started and `c` is not. -/
example :
    let bad : Redirect := ⟨.other 99, text "f"⟩
    let d : Draft := .sequence [some [some ⟨[text "true"], []⟩],
      some [some ⟨[text "a"], []⟩, some ⟨[text "b"], [bad]⟩], some [some ⟨[text "c"], []⟩]]
    let run := execute (.idle Unit) {} d { world := () }
    run.1 = .returned (some ⟨[], [], 0⟩) (some (.runtime (text "redirect") (.malformedRedirect bad))) ∧
      run.2.foreground = [] ∧ run.2.launches.map (·.2.words) = [[text "true"], [text "a"]] := by
  decide +kernel

end AuditShell
