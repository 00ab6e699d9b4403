import AuditShell.Proofs.Malformed
/-!
# Why a line fails

The failure that ends a line comes from the system, from a tree with a defect, or from a builtin (`StageFails`,
`runPipeline_fails`). A builtin is a tree of actions, and fails where some answers of the shell lead it to a failure
(`Action.Fails`); in the default registry that is a wrong use of `cd` or `exit`, or the exit with a code
(`Registry.default_fails`).

What a command can fail with is said once (`stageFails_startCommand`), and kept by what stands around it: the pipe
that is handed over, the stages before it, the pipelines before its own.
-/
namespace AuditShell

variable {σ : Type}

/-- Some answers of the shell lead an action to a failure. -/
inductive Action.Fails : Action → Failure → Prop where
  | finish {f : Failure} : Fails (.finish (some f)) f
  | complain {message : Bytes} {k : Action} {f : Failure} (h : Fails k f) : Fails (.complain message k) f
  | exit {code : Int} {k : Action} {f : Failure} (h : Fails k f) : Fails (.exit code k) f
  | changeDir {path : Bytes} {k : Option OsError → Action} {f : Failure} (e : Option OsError) (h : Fails (k e) f) :
      Fails (.changeDir path k) f
  | send {signal : Signal} {k : Bool → Action} {f : Failure} (delivered : Bool) (h : Fails (k delivered) f) :
      Fails (.send signal k) f
  | killAll {k : Nat → Action} {f : Failure} (n : Nat) (h : Fails (k n) f) : Fails (.killAll k) f
  | cancel {k : Action} {f : Failure} (h : Fails k f) : Fails (.cancel k) f

theorem runAction_fails (m : Machine σ) (set : Settings) {a : Action} {s : Shell σ} {f : Failure}
    (h : (runAction m set a s).1 = .returned (some f)) : a.Fails f := by
  induction a generalizing s with
  | finish failure =>
    cases h
    exact .finish
  | complain b k ih => exact .complain (ih h)
  | exit n k ih =>
    unfold runAction at h
    cases hhook : set.hook with
    | returns =>
      rw [hhook] at h
      exact .exit (ih h)
    | terminates =>
      rw [hhook] at h
      cases h
  | changeDir path k ih => exact .changeDir _ (ih _ h)
  | send sig k ih => exact .send _ (ih _ h)
  | killAll k ih => exact .killAll _ (ih _ h)
  | cancel k ih => exact .cancel (ih h)

/-! ## The default registry -/

theorem Registry.lookup_default (name : Bytes) :
    Registry.default.lookup name =
      if name = text "cd" then some .cd else if name = text "exit" then some .exit else none := by
  have hnames : Registry.default.builtins = [.cd, .exit] := by
    simp [default, register, empty, Builtin.cd, Builtin.exit, show text "cd" ≠ text "exit" by decide]
  simp only [lookup, hnames, List.find?_cons, List.find?_nil]
  by_cases hcd : name = text "cd"
  · simp [hcd, Builtin.cd]
  · by_cases hexit : name = text "exit"
    · simp [hexit, Builtin.cd, Builtin.exit, show text "cd" ≠ text "exit" by decide,
        show text "exit" ≠ text "cd" by decide]
    · simp [hcd, hexit, Builtin.cd, Builtin.exit, Ne.symm hcd, Ne.symm hexit]

namespace Builtin

theorem leave_fails {n : Int} {f : Failure} (h : (leave n).Fails f) : f = .exit n := by
  obtain _ | ⟨_ | _ | ⟨⟨⟩⟩⟩ := h
  rfl

theorem usage_fails {name detail : Bytes} {f : Failure} (h : (usage name detail).Fails f) :
    f = .usage name detail := by
  obtain _ | ⟨⟨⟩⟩ := h
  rfl

theorem cd_fails {args : List Bytes} {f : Failure} (h : (cd.run args).Fails f) :
    ∃ detail, f = .usage (text "cd") detail := by
  match args, h with
  | [], h => exact ⟨_, usage_fails h⟩
  | [_], .changeDir none h => cases h
  | [_], .changeDir (some e) h => exact ⟨_, usage_fails h⟩
  | _ :: _ :: _, h => exact ⟨_, usage_fails h⟩

theorem exit_fails {args : List Bytes} {f : Failure} (h : (exit.run args).Fails f) :
    (∃ detail, f = .usage (text "exit") detail) ∨ ∃ n, f = .exit n := by
  match args, h with
  | [], h => exact .inr ⟨_, leave_fails h⟩
  | [w], h =>
    simp only [exit] at h
    cases hw : integer? w with
    | none =>
      rw [hw] at h
      exact .inl ⟨_, usage_fails h⟩
    | some n =>
      rw [hw] at h
      exact .inr ⟨_, leave_fails h⟩
  | _ :: _ :: _, h => exact .inl ⟨_, usage_fails h⟩

end Builtin

/-- A builtin of the default registry was used wrongly, or it leaves the shell. -/
theorem Registry.default_fails {name : Bytes} {b : Builtin} {args : List Bytes} {f : Failure}
    (hb : Registry.default.lookup name = some b) (h : (b.run args).Fails f) :
    (∃ detail, f = .usage name detail) ∨ ∃ n, f = .exit n := by
  rw [lookup_default] at hb
  split at hb
  next hname =>
    cases hb
    exact .inl (hname ▸ Builtin.cd_fails h)
  next =>
    split at hb
    next hname =>
      cases hb
      exact hname ▸ Builtin.exit_fails h
    next => cases hb

/-! ## Failures of a pipeline -/

/-- A failure for which the system is the reason: it refuses a request, a signal ends a wait, or the line is
cancelled. -/
inductive Failure.OfSystem : Failure → Prop where
  | refused (operation : Bytes) (e : OsError) : OfSystem (.runtime operation (.os e))
  | cancelled (operation : Bytes) : OfSystem (.runtime operation .cancelled)
  | interrupted (signal : Option Signal) : OfSystem (.interrupted signal)

/-- How a pipeline without missing commands can fail: for a reason of the system, by the defect of one of its commands,
or as the builtin that one of them names. -/
inductive StageFails (r : Registry) (p : Pipeline) (f : Failure) : Prop where
  | system (h : f.OfSystem)
  | defect {c : Command} (hc : c ∈ p) (h : c.Defect f)
  | builtin {c : Command} {b : Builtin} (hc : c ∈ p) (hb : r.lookup c.name = some b) (h : (b.run c.args).Fails f)

theorem StageFails.mono {r : Registry} {p q : Pipeline} {f : Failure} (h : StageFails r p f) (hsub : p ⊆ q) :
    StageFails r q f := by
  cases h with
  | system h => exact .system h
  | defect hc h => exact .defect (hsub hc) h
  | builtin hc hb h => exact .builtin (hsub hc) hb h

theorem Failure.OfSystem.chain_eq {f : Failure} (h : f.OfSystem) : f.chain = [f] := by
  cases h <;> rfl

theorem Command.Defect.chain_eq {c : Command} {f : Failure} (h : c.Defect f) : f.chain = [f] := by
  cases h <;> rfl

/-- With `cd` and `exit` alone, the failure of a pipeline stands around no other. -/
theorem StageFails.chain_eq {p : Pipeline} {f : Failure} (h : StageFails .default p f) : f.chain = [f] := by
  cases h with
  | system h => exact h.chain_eq
  | defect _ h => exact h.chain_eq
  | builtin _ hb h =>
    rcases Registry.default_fails hb h with ⟨detail, rfl⟩ | ⟨n, rfl⟩
    · rfl
    · rfl

section

variable (m : Machine σ) (set : Settings)

theorem openOutput_fails {input : Option Nat} {r : Option Redirect} {s : Shell σ} {f : Failure}
    (h : (openOutput m input r s).1 = .error f) : f.OfSystem := by
  cases r with
  | none => cases h
  | some r =>
    revert h
    unfold openOutput
    dsimp only
    rcases m.openWrite s.fresh (r.kind = .append) r.path s.world with ⟨_ | e, w⟩
    · rintro ⟨⟩
    · rintro ⟨⟩
      exact .refused _ e

theorem openRedirects_fails {c : Command} (hwords : c.words ≠ []) {s : Shell σ} {f : Failure}
    (h : (openRedirects m c s).1 = .error f) : f.OfSystem ∨ c.Defect f := by
  cases hknown : c.redirects.find? (fun r => !r.kind.isKnown) with
  | some r =>
    simp only [openRedirects, hknown] at h
    cases h
    exact .inr (.redirect hwords hknown)
  | none =>
  refine .inl ?_
  revert h
  simp only [openRedirects, hknown]
  cases c.input? with
  | none => exact openOutput_fails m
  | some r =>
    dsimp only
    rcases m.openRead s.fresh r.path s.world with ⟨_ | e, w⟩
    · exact openOutput_fails m
    · rintro ⟨⟩
      exact .refused _ e

theorem ActionEnd.stage_failed {e : ActionEnd} {f : Failure} (h : e.stage = .failed f) : e = .returned (some f) := by
  match e with
  | .returned none => cases h
  | .returned (some _) =>
    cases h
    rfl
  | .terminated code => cases h

theorem stageFails_startCommand {c : Command} (hwords : c.words ≠ []) {stdin : Source} {stdout : Sink} {p : Plumbing}
    {s : Shell σ} {f : Failure} (h : (startCommand m set c stdin stdout p s).1 = .failed f) :
    StageFails set.registry [c] f := by
  revert h
  rcases hopen : openRedirects m c s with ⟨g | o, t⟩
  · simp only [startCommand, hopen]
    rintro ⟨⟩
    rcases openRedirects_fails m hwords (congrArg Prod.fst hopen) with hsystem | hdefect
    · exact .system hsystem
    · exact .defect (List.mem_singleton_self c) hdefect
  cases hb : set.registry.lookup c.name with
  | none =>
    simp only [startCommand, hopen, hb, spawnStage]
    rcases m.spawn t.fresh _ t.world with ⟨_ | e, w⟩
    · rintro ⟨⟩
    · rintro ⟨⟩
      exact .system (.refused _ e)
  | some b =>
    rw [startCommand_builtin m set hopen hb]
    exact fun h => .builtin (List.mem_singleton_self c) hb (runAction_fails m set (ActionEnd.stage_failed h))

@[simp] theorem passOn_end (writer : Option Nat) (r : StageEnd × Plumbing × Shell σ) : (passOn m writer r).1 = r.1 := by
  obtain ⟨_ | f | code, p, s⟩ := r <;> rfl

theorem stageFails_startStage {last : Bool} {c : Command} (hwords : c.words ≠ []) {p : Plumbing} {s : Shell σ}
    {f : Failure} (h : (startStage m set last c p s).1 = .failed f) : StageFails set.registry [c] f := by
  revert h
  rw [startStage_eq]
  split
  · rw [passOn_end]
    exact stageFails_startCommand m set hwords
  · rcases m.makePipe s.fresh s.world with ⟨_ | e, w⟩
    · rw [passOn_end]
      exact stageFails_startCommand m set hwords
    · rintro ⟨⟩
      exact .system (.refused _ e)

theorem stageFails_startStages {p : Pipeline} {q : Plumbing} {s : Shell σ} {f : Failure}
    (h : (startStages m set (Stages.ofPipeline p) q s).1 = .failed f) : StageFails set.registry p f := by
  induction p generalizing q s with
  | nil => cases h
  | cons c p ih =>
    by_cases hwords : c.words = []
    · simp only [Stages.ofPipeline, List.map_cons, startStages, hwords, if_true] at h
      cases h
      exact .defect List.mem_cons_self (.words hwords)
    · simp only [Stages.ofPipeline, List.map_cons, startStages, hwords, if_false] at h
      have hstage : (startStage m set (p.map some).isEmpty c q s).1 = .failed f → StageFails set.registry [c] f :=
        stageFails_startStage m set hwords
      generalize startStage m set (p.map some).isEmpty c q s = r at h hstage
      obtain ⟨_ | g | code, q', t⟩ := r
      · exact (ih h).mono (List.subset_cons_self c p)
      · cases h
        exact (hstage rfl).mono (List.cons_subset_cons c (List.nil_subset p))
      · cases h

theorem waitResult_fails {r : Except OsError Ended} {f : Failure} (h : waitResult r = .error f) : f.OfSystem := by
  cases r with
  | ok e => cases h
  | error e =>
    cases h
    exact .refused _ e

theorem await_fails {process : Nat} {s : Shell σ} {f : Failure} (h : (await m set process s).1 = .error f) :
    f.OfSystem := by
  rw [await_eq] at h
  dsimp only at h
  generalize (m.wake process _ _ _).1.view = view at h
  match view with
  | .exit r => exact waitResult_fails h
  | .signal sig (some r) => exact waitResult_fails h
  | .signal sig none =>
    cases h
    exact .interrupted _
  | .cancel =>
    cases h
    exact .cancelled _

theorem awaitAll_fails {ps : List Nat} {last : Option Ended} {s : Shell σ} {f : Failure}
    (h : (awaitAll m set ps last s).1 = .error f) : f.OfSystem := by
  induction ps generalizing last s with
  | nil => cases h
  | cons p ps ih =>
    unfold awaitAll at h
    rcases hawait : await m set p s with ⟨g | e, t⟩
    · rw [hawait] at h
      cases h
      exact await_fails m set (congrArg Prod.fst hawait)
    · rw [hawait] at h
      exact ih h

theorem Stages.eq_ofPipeline {cs : Stages} {p : Pipeline} (h : cs.pipeline? = some p) : cs = Stages.ofPipeline p := by
  induction cs generalizing p with
  | nil =>
    cases h
    rfl
  | cons c cs ih =>
    cases c with
    | none => cases h
    | some c =>
      obtain ⟨q, hq, rfl⟩ := Option.map_eq_some_iff.1 h
      rw [ih hq]
      rfl

/-- A pipeline fails where it is missing or empty, or as its commands can fail. -/
theorem runPipeline_fails {p : Option Stages} {s : Shell σ} {f : Failure} (h : (runPipeline m set p s).1 = .failed f) :
    ((p = none ∨ p = some []) ∧ f = .runtime (text "pipeline") .emptyPipeline) ∨
      ∃ q, p = some (Stages.ofPipeline q) ∧ StageFails set.registry q f := by
  match p with
  | none =>
    cases h
    exact .inl ⟨.inl rfl, rfl⟩
  | some [] =>
    cases h
    exact .inl ⟨.inr rfl, rfl⟩
  | some (c :: cs) =>
    cases hp : Stages.pipeline? (c :: cs) with
    | none =>
      simp only [runPipeline, hp] at h
      cases h
    | some q =>
      simp only [runPipeline, hp, runStages] at h
      refine .inr ⟨q, congrArg some (Stages.eq_ofPipeline hp), ?_⟩
      have hstages := stageFails_startStages m set (p := q) (q := {}) (f := f)
        (s := s.note (.pipeline (Pipeline.render q)))
      rw [← Stages.eq_ofPipeline hp] at hstages
      generalize startStages m set (c :: cs) {} _ = r at h hstages
      obtain ⟨_ | g | code, q', t⟩ := r
      · have hawaited : (awaitAll m set q'.processes none t).1 = .error f → f.OfSystem := awaitAll_fails m set
        dsimp only at h
        generalize awaitAll m set q'.processes none t = r at h hawaited
        obtain ⟨g | last, u⟩ := r
        · cases h
          exact .system (hawaited rfl)
        · cases h
      · cases h
        exact hstages rfl
      · cases h

theorem runPipeline_ofPipeline {p : Pipeline} (hp : p ≠ []) (s : Shell σ) :
    runPipeline m set (some (Stages.ofPipeline p)) s =
      runStages m set (Stages.ofPipeline p) (s.note (.pipeline (Pipeline.render p))) := by
  obtain ⟨c, p, rfl⟩ := List.exists_cons_of_ne_nil hp
  have hwritten : Stages.pipeline? (some c :: Stages.ofPipeline p) = some (c :: p) := Stages.pipeline?_ofPipeline (c :: p)
  change runPipeline m set (some (some c :: Stages.ofPipeline p)) s = _
  simp only [runPipeline, hwritten]
  rfl

/-- A line of pipelines that returns a failure has come to a pipeline that failed with it. -/
theorem exists_failed_pipeline {d : Draft} {ps : List (Option Stages)} (hd : d.pipelines = .ok ps) {s : Shell σ}
    {result : Option Result} {f : Failure} (h : (execute m set d s).1 = .returned result (some f)) :
    ∃ before p after ns t, ps = before ++ p :: after ∧ Passes m set before (s.cleared m set) ns t ∧
      (runPipeline m set p t).1 = .failed f := by
  rcases passes_or_stops m set ps (s.cleared m set) with ⟨ns, t, hps⟩ | ⟨before, p, after, ns, t, rfl, hbefore, hstops⟩
  · have hrun := hps.runSequence_append m set [] 0
    rw [List.append_nil] at hrun
    rw [Draft.execute_eq m set hd, hrun] at h
    cases h
  · rw [execute_of_stops m set hd hbefore hstops] at h
    refine ⟨before, p, after, ns, t, rfl, hbefore, ?_⟩
    dsimp only at h
    generalize (runPipeline m set p t).1 = e at h ⊢
    cases e <;> cases h
    rfl

end

end AuditShell
