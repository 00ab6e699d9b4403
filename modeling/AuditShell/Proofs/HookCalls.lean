import AuditShell.Proofs.Failing
import Mathlib.Data.List.Induction
/-!
# Calls of the exit hook

With `cd` and `exit` alone, and a hook that comes back, a line calls the hook with the code of the exit that it returns,
and not otherwise (`calls_execute`). The hook is called by one builtin, so the calls are followed from there outwards: a
stage, a pipeline and a line add to them the code of the exit with which they fail (`Calls`). That a pipeline fails with
an exit is never overlooked: no failure stands around another, so one that does not end its line is no exit.

Which code the builtin has is said by its arguments (`ExitCode`, `Builtin.exit_run_leave`).
-/
namespace AuditShell

variable {σ : Type}

/-! ## Codes -/

/-- A number written in decimal digits, of which there is at least one. -/
inductive Decimal : Bytes → Nat → Prop where
  | digit {b : UInt8} (hb : 0x30 ≤ b ∧ b ≤ 0x39) : Decimal [b] (b.toNat - 0x30)
  | more {ds : Bytes} {n : Nat} {b : UInt8} (hds : Decimal ds n) (hb : 0x30 ≤ b ∧ b ≤ 0x39) :
      Decimal (ds ++ [b]) (10 * n + (b.toNat - 0x30))

/-- A number in decimal with an optional sign. -/
inductive SignedDecimal : Bytes → Int → Prop where
  | plain {ds : Bytes} {n : Nat} (h : Decimal ds n) : SignedDecimal ds n
  | plus {ds : Bytes} {n : Nat} (h : Decimal ds n) : SignedDecimal (0x2B :: ds) n
  | minus {ds : Bytes} {n : Nat} (h : Decimal ds n) : SignedDecimal (0x2D :: ds) (-n)

/-- The code that the arguments of `exit` say: 0 without any, or that of the only one, a number of 64 bits. -/
inductive ExitCode : List Bytes → Int → Prop where
  | nothing : ExitCode [] 0
  | number {w : Bytes} {n : Int} (hw : SignedDecimal w n) (hn : Word.least ≤ n ∧ n < Word.half) : ExitCode [w] n

namespace Builtin

theorem digitsValue?_eq_some {ds : Bytes} {n : Nat} :
    digitsValue? ds = some n ↔ (ds ≠ [] ∧ ∀ b ∈ ds, 0x30 ≤ b ∧ b ≤ 0x39) ∧
      ds.foldl (fun n b => 10 * n + (b.toNat - 0x30)) 0 = n := by
  cases ds with
  | nil => simp [digitsValue?]
  | cons d ds => simp [digitsValue?]

theorem digitsValue?_iff_decimal {ds : Bytes} {n : Nat} : digitsValue? ds = some n ↔ Decimal ds n := by
  rw [digitsValue?_eq_some]
  constructor
  · rintro ⟨⟨hne, hdigits⟩, rfl⟩
    -- the last digit is the one that is added, so the induction is from the end
    induction ds using List.reverseRecOn with
    | nil => exact absurd rfl hne
    | append_singleton ds b ih =>
      obtain ⟨hds, hb⟩ := List.forall_mem_append.1 hdigits
      rw [List.forall_mem_singleton] at hb
      rw [List.foldl_append]
      by_cases hempty : ds = []
      · rw [hempty]
        simpa using Decimal.digit hb
      · exact .more (ih hempty hds) hb
  · intro h
    induction h with
    | digit hb => simp [hb]
    | more _ hb ih =>
      obtain ⟨⟨-, hdigits⟩, rfl⟩ := ih
      refine ⟨⟨by simp, ?_⟩, by rw [List.foldl_append]; rfl⟩
      exact List.forall_mem_append.2 ⟨hdigits, List.forall_mem_singleton.2 hb⟩

theorem holds_iff {n : Int} : Word.holds n = true ↔ Word.least ≤ n ∧ n < Word.half := by
  simp only [Word.holds, Bool.and_eq_true, decide_eq_true_eq]

/-- No digit is a sign. -/
theorem not_decimal_sign {b : UInt8} {ds : Bytes} {n : Nat} (hb : b < 0x30) : ¬ Decimal (b :: ds) n := by
  intro h
  obtain ⟨⟨-, hdigits⟩, -⟩ := digitsValue?_eq_some.1 (digitsValue?_iff_decimal.2 h)
  exact UInt8.not_le.2 hb (hdigits b List.mem_cons_self).1

theorem integer?_eq_some {w : Bytes} {n : Int} :
    integer? w = some n ↔ SignedDecimal w n ∧ Word.least ≤ n ∧ n < Word.half := by
  unfold integer?
  dsimp only
  rw [Option.filter_eq_some_iff, holds_iff]
  refine and_congr_left fun _ => ?_
  split
  next ds =>
    simp only [Option.map_eq_some_iff, Option.bind_eq_bind, Option.bind_eq_some_iff, Option.pure_def, Option.some.injEq]
    constructor
    · rintro ⟨_, ⟨k, hk, rfl⟩, rfl⟩
      exact .minus (digitsValue?_iff_decimal.1 hk)
    · rintro (h | h | h)
      · exact absurd h (not_decimal_sign (by decide))
      · exact ⟨_, ⟨_, digitsValue?_iff_decimal.2 h, rfl⟩, rfl⟩
  next ds =>
    rw [Option.map_eq_some_iff]
    constructor
    · rintro ⟨k, hk, rfl⟩
      exact .plus (digitsValue?_iff_decimal.1 hk)
    · rintro (h | h | h)
      · exact absurd h (not_decimal_sign (by decide))
      · exact ⟨_, digitsValue?_iff_decimal.2 h, rfl⟩
  next hminus hplus =>
    rw [Option.map_eq_some_iff]
    constructor
    · rintro ⟨k, hk, rfl⟩
      exact .plain (digitsValue?_iff_decimal.1 hk)
    · rintro (h | h | h)
      · exact ⟨_, digitsValue?_iff_decimal.2 h, rfl⟩
      · exact absurd rfl (hplus _)
      · exact absurd rfl (hminus _)

theorem exit_run_leave {args : List Bytes} {n : Int} (h : ExitCode args n) : exit.run args = leave n := by
  cases h with
  | nothing => rfl
  | @number w n hw hn =>
    have hcode : integer? w = some n := integer?_eq_some.2 ⟨hw, hn⟩
    simp only [exit, hcode]

theorem exit_run_usage {args : List Bytes} (h : ∀ n, ¬ ExitCode args n) :
    ∃ detail, exit.run args = usage (text "exit") detail := by
  match args with
  | [] => exact absurd .nothing (h 0)
  | [w] =>
    have hnone : integer? w = none := by
      by_contra hsome
      obtain ⟨n, hn⟩ := Option.ne_none_iff_exists'.1 hsome
      obtain ⟨hw, hbounds⟩ := integer?_eq_some.1 hn
      exact h n (.number hw hbounds)
    refine ⟨w ++ text ": numeric argument required", ?_⟩
    simp only [exit, hnone]
  | _ :: _ :: _ => exact ⟨_, rfl⟩

/-- `exit` fails with a code exactly where its arguments say it. -/
theorem exit_fails_iff {args : List Bytes} {n : Int} : (exit.run args).Fails (.exit n) ↔ ExitCode args n := by
  constructor
  · intro h
    by_cases hcode : ∃ k, ExitCode args k
    · obtain ⟨k, hk⟩ := hcode
      rw [exit_run_leave hk] at h
      cases leave_fails h
      exact hk
    · obtain ⟨detail, hrun⟩ := exit_run_usage fun k hk => hcode ⟨k, hk⟩
      rw [hrun] at h
      cases usage_fails h
  · intro h
    rw [exit_run_leave h]
    exact .complain (.exit .finish)

end Builtin

/-! ## Calls of the hook -/

/-- The code with which the exit hook was called. -/
def Event.hookCode? : Event → Option Int
  | .exitHook code => some code
  | _ => none

/-- The codes with which the exit hook was called, in order. -/
def Shell.hookCalls (s : Shell σ) : List Int := s.journal.filterMap Event.hookCode?

/-- The failure with which a stage ends. -/
def StageEnd.failure? : StageEnd → Option Failure
  | .failed f => some f
  | _ => none

/-- The failure with which a pipeline ends. -/
def PipelineEnd.failure? : PipelineEnd → Option Failure
  | .failed f => some f
  | _ => none

/-- The failure with which a line ends. -/
def LineEnd.failure? : LineEnd → Option Failure
  | .returned _ f => f
  | _ => none

/-- Between two shells the exit hook was called once, with the code of this exit, or not at all where there is none. -/
def Calls (s t : Shell σ) (f : Option Failure) : Prop :=
  t.hookCalls = s.hookCalls ++ (f.bind Failure.exitCode?).toList

theorem Event.quiet.hookCode? {e : Event} (h : e.quiet) : e.hookCode? = none := by
  cases e <;> first | rfl | cases h

theorem Shell.Grows.calls {s t : Shell σ} (h : s.Grows (fun e => e.hookCode? = none) t) {f : Option Failure}
    (hf : f.bind Failure.exitCode? = none) : Calls s t f := by
  obtain ⟨es, hes, hnone⟩ := h
  rw [Calls, hf, Shell.hookCalls, hes, List.filterMap_append, List.filterMap_eq_nil_iff.2 hnone]
  rfl

/-- In quiet steps the hook is not called. -/
theorem Shell.Grows.unhooked {s t : Shell σ} (h : s.Grows (·.quiet) t) : s.Grows (fun e => e.hookCode? = none) t :=
  h.mono fun _ => Event.quiet.hookCode?

theorem Calls.trans {s t u : Shell σ} {f : Option Failure} (h : Calls s t none) (h' : Calls t u f) : Calls s u f := by
  rw [Calls] at h ⊢
  rw [h', h]
  simp

theorem Calls.after {s t u : Shell σ} {f : Option Failure} (h : Calls t u f)
    (hs : s.Grows (fun e => e.hookCode? = none) t) : Calls s u f :=
  .trans (hs.calls rfl) h

theorem Calls.before {s t u : Shell σ} {f : Option Failure} (h : Calls s t f)
    (ht : t.Grows (fun e => e.hookCode? = none) u) : Calls s u f := by
  have hnone : Calls t u none := ht.calls rfl
  rw [Calls] at hnone ⊢
  rw [hnone, h]
  simp

/-! ### Builtins -/

section

variable (m : Machine σ) (set : Settings)

/-- The shell when it has said that it exits and has called the hook. -/
def Shell.hooked (n : Int) (s : Shell σ) : Shell σ :=
  ((((s.absorb m set.capture).write set.capture .err (text "exit\n")).absorb m set.capture).flush set).note (.exitHook n)

variable {set}

theorem runAction_leave_eq (hhook : set.hook = .returns) (n : Int) (s : Shell σ) :
    runAction m set (Builtin.leave n) s = (.returned (some (.exit n)), s.hooked m set n) := by
  simp only [Builtin.leave, runAction, hhook]
  rfl

variable (set)

theorem quiet_complain (message : Bytes) (s : Shell σ) :
    s.Grows (·.quiet) ((s.absorb m set.capture).write set.capture .err message) :=
  (s.grows_absorb m set.capture).trans (Shell.stays_write (fun _ => ()) set.capture .err message _).journal

theorem exists_hooked_eq (n : Int) (s : Shell σ) :
    ∃ t, s.Grows (·.quiet) t ∧ s.hooked m set n = t.note (.exitHook n) := by
  have hsaid := quiet_complain m set (text "exit\n") s
  refine ⟨_, (hsaid.trans (Shell.grows_absorb m set.capture _)).trans ?_, rfl⟩
  exact (Shell.stays_flush (fun _ => ()) set _).journal

theorem calls_hooked (n : Int) (s : Shell σ) : Calls s (s.hooked m set n) (some (.exit n)) := by
  obtain ⟨t, hquiet, hhooked⟩ := exists_hooked_eq m set n s
  have hcall : Calls t (t.note (.exitHook n)) (some (.exit n)) := by
    rw [Calls, Shell.hookCalls, Shell.note, List.filterMap_append]
    rfl
  rw [hhooked]
  exact hcall.after hquiet.unhooked

theorem launches_hooked (n : Int) (s : Shell σ) : (s.hooked m set n).launches = s.launches := by
  obtain ⟨t, hquiet, hhooked⟩ := exists_hooked_eq m set n s
  rw [hhooked]
  exact ((hquiet.mono fun _ => Event.quiet.launch?).note rfl).launches_eq

theorem quiet_cd (args : List Bytes) (s : Shell σ) :
    s.Grows (·.quiet) (runAction m set (Builtin.cd.run args) s).2 := by
  match args with
  | [] => exact quiet_complain m set _ s
  | [path] =>
    have hrun (k : Option OsError → Action) : runAction m set (.changeDir path k) s =
        runAction m set (k (m.chdir path s.world).1) { s with world := (m.chdir path s.world).2 } := rfl
    change s.Grows _ (runAction m set (.changeDir path _) s).2
    rw [hrun]
    rcases m.chdir path s.world with ⟨_ | e, w⟩
    · exact .of_eq rfl
    · exact quiet_complain m set _ { s with world := w }
  | _ :: _ :: _ => exact quiet_complain m set _ s

theorem calls_builtin {name : Bytes} {b : Builtin} (hhook : set.hook = .returns)
    (hb : Registry.default.lookup name = some b) (args : List Bytes) (s : Shell σ) :
    Calls s (runAction m set (b.run args) s).2 (runAction m set (b.run args) s).1.stage.failure? := by
  rw [Registry.lookup_default] at hb
  split at hb
  · cases hb
    refine (quiet_cd m set args s).unhooked.calls ?_
    rcases hrun : (runAction m set (Builtin.cd.run args) s).1 with (_ | f) | code
    · rfl
    · obtain ⟨detail, rfl⟩ := Builtin.cd_fails (runAction_fails m set hrun)
      rfl
    · rfl
  · split at hb
    · cases hb
      by_cases hcode : ∃ n, ExitCode args n
      · obtain ⟨n, hn⟩ := hcode
        rw [Builtin.exit_run_leave hn, runAction_leave_eq m hhook]
        exact calls_hooked m set n s
      · obtain ⟨detail, hrun⟩ := Builtin.exit_run_usage fun n hn => hcode ⟨n, hn⟩
        rw [hrun]
        exact (quiet_complain m set _ s).unhooked.calls rfl
    · cases hb

/-! ### Stages, pipelines and lines -/

theorem Failure.exitCode?_of_chain {f : Failure} (h : f.chain = [f]) : f.exitCode? = f.exit? := by
  rw [exitCode?, h]
  cases hf : f.exit? <;> simp [hf]

theorem Failure.OfSystem.exitCode? {f : Failure} (h : f.OfSystem) : f.exitCode? = none := by
  rw [exitCode?_of_chain h.chain_eq]
  cases h <;> rfl

theorem Command.Defect.exitCode? {c : Command} {f : Failure} (h : c.Defect f) : f.exitCode? = none := by
  rw [Failure.exitCode?_of_chain h.chain_eq]
  cases h <;> rfl

theorem openRedirects_exitCode? {c : Command} (hwords : c.words ≠ []) {s : Shell σ} {f : Failure}
    (h : (openRedirects m c s).1 = .error f) : f.exitCode? = none := by
  rcases openRedirects_fails m hwords h with hsystem | hdefect
  · exact hsystem.exitCode?
  · exact hdefect.exitCode?

variable {set}

theorem calls_startCommand (hregistry : set.registry = .default) (hhook : set.hook = .returns) {c : Command}
    (hwords : c.words ≠ []) (stdin : Source) (stdout : Sink) (p : Plumbing) (s : Shell σ) :
    Calls s (startCommand m set c stdin stdout p s).2.2 (startCommand m set c stdin stdout p s).1.failure? := by
  have hopened := grows_openRedirects m c s
  rcases hopen : openRedirects m c s with ⟨f | o, t⟩
  · rw [hopen] at hopened
    simp only [startCommand, hopen]
    exact hopened.unhooked.calls (openRedirects_exitCode? m hwords (congrArg Prod.fst hopen))
  rw [hopen] at hopened
  cases hb : set.registry.lookup c.name with
  | none =>
    simp only [startCommand, hopen, hb, spawnStage]
    rcases m.spawn t.fresh _ t.world with ⟨_ | e, w⟩
    · refine Calls.after (t := t) ?_ hopened.unhooked
      exact Shell.Grows.calls (.note (.of_eq rfl) rfl) rfl
    · exact hopened.unhooked.calls rfl
  | some b =>
    rw [startCommand_builtin m set hopen hb]
    have hnoted : s.Grows (fun e => e.hookCode? = none) (t.note (.builtin c.name c.args)) := hopened.unhooked.note rfl
    exact (calls_builtin m set hhook (hregistry ▸ hb) c.args _).after hnoted

theorem calls_passOn {s : Shell σ} {r : StageEnd × Plumbing × Shell σ} (writer : Option Nat)
    (h : Calls s r.2.2 r.1.failure?) : Calls s (passOn m writer r).2.2 (passOn m writer r).1.failure? := by
  obtain ⟨e, p, t⟩ := r
  have hover := (grows_handOver m writer p t).unhooked
  cases e with
  | started => exact h.before hover
  | failed f => exact h.before hover
  | terminated code => exact h

theorem calls_startStage (hregistry : set.registry = .default) (hhook : set.hook = .returns) (last : Bool) {c : Command}
    (hwords : c.words ≠ []) (p : Plumbing) (s : Shell σ) :
    Calls s (startStage m set last c p s).2.2 (startStage m set last c p s).1.failure? := by
  rw [startStage_eq]
  split
  · exact calls_passOn m none (calls_startCommand m hregistry hhook hwords _ _ p s)
  · rcases m.makePipe s.fresh s.world with ⟨_ | e, w⟩
    · have hpiped : s.Grows (fun e => e.hookCode? = none)
          (({ s with world := w, fresh := s.fresh + 1 } : Shell σ).note (.piped s.fresh)) := .note (.of_eq rfl) rfl
      exact calls_passOn m (some s.fresh) ((calls_startCommand m hregistry hhook hwords _ _ p _).after hpiped)
    · exact Shell.Grows.calls (.of_eq rfl) rfl

theorem calls_startStages (hregistry : set.registry = .default) (hhook : set.hook = .returns) (cs : Stages) (p : Plumbing)
    (s : Shell σ) : Calls s (startStages m set cs p s).2.2 (startStages m set cs p s).1.failure? := by
  have hnone {f : Option Failure} (hf : f.bind Failure.exitCode? = none) (t : Shell σ) : Calls t t f :=
    Shell.Grows.calls (.of_eq rfl) hf
  induction cs generalizing p s with
  | nil => exact hnone rfl s
  | cons c cs ih =>
    cases c with
    | none => exact hnone rfl s
    | some c =>
      unfold startStages
      dsimp only
      split
      · exact hnone rfl s
      next hwords =>
        have hstage := calls_startStage m hregistry hhook cs.isEmpty hwords p s
        generalize startStage m set cs.isEmpty c p s = r at hstage ⊢
        obtain ⟨_ | f | code, q, t⟩ := r
        · exact hstage.trans (ih q t)
        · exact hstage
        · exact hstage

theorem calls_runPipeline (hregistry : set.registry = .default) (hhook : set.hook = .returns) (p : Option Stages)
    (s : Shell σ) : Calls s (runPipeline m set p s).2 (runPipeline m set p s).1.failure? := by
  match p with
  | none => exact Shell.Grows.calls (.of_eq rfl) rfl
  | some [] => exact Shell.Grows.calls (.of_eq rfl) rfl
  | some (c :: cs) =>
    cases hp : Stages.pipeline? (c :: cs) with
    | none =>
      simp only [runPipeline, hp]
      exact Shell.Grows.calls (.of_eq rfl) rfl
    | some pipeline =>
      simp only [runPipeline, hp]
      have hbegun : s.Grows (fun e => e.hookCode? = none) (s.note (.pipeline (Pipeline.render pipeline))) :=
        .note (.of_eq rfl) rfl
      have hstages := (calls_startStages m hregistry hhook (c :: cs) {} _).after hbegun
      unfold runStages
      generalize startStages m set (c :: cs) {} _ = r at hstages ⊢
      obtain ⟨_ | f | code, q, t⟩ := r
      · have hawaited := grows_awaitAll m set q.processes none t
        have hfails (f : Failure) : (awaitAll m set q.processes none t).1 = .error f → f.OfSystem := awaitAll_fails m set
        dsimp only
        generalize awaitAll m set q.processes none t = r at hawaited hfails ⊢
        obtain ⟨f | last, u⟩ := r
        · exact hstages.trans ((hawaited.trans (grows_closeAll m q u)).unhooked.calls (hfails f rfl).exitCode?)
        · exact hstages.trans ((hawaited.trans (grows_closeAll m q u)).unhooked.calls rfl)
      · exact hstages.before ((grows_reapAll m set q.processes t).trans (grows_closeAll m q _)).unhooked
      · exact hstages

theorem recoverable_exitCode? {f : Failure} (hf : f.chain = [f]) {r : Int × Event} (h : recoverable f = some r) :
    f.exitCode? = none := by
  rw [Failure.exitCode?_of_chain hf]
  unfold recoverable at h
  rw [hf] at h
  cases f <;> first | rfl | cases h

theorem runPipeline_chain (hregistry : set.registry = .default) {p : Option Stages} {s : Shell σ} {f : Failure}
    (h : (runPipeline m set p s).1 = .failed f) : f.chain = [f] := by
  rcases runPipeline_fails m set h with ⟨-, rfl⟩ | ⟨q, -, hfails⟩
  · rfl
  · rw [hregistry] at hfails
    exact hfails.chain_eq

theorem calls_runSequence (hregistry : set.registry = .default) (hhook : set.hook = .returns) (ps : List (Option Stages))
    (code : Int) (s : Shell σ) : Calls s (runSequence m set ps code s).2 (runSequence m set ps code s).1.failure? := by
  induction ps generalizing code s with
  | nil => exact Shell.Grows.calls (.of_eq rfl) rfl
  | cons p ps ih =>
    have hpipeline := calls_runPipeline m hregistry hhook p s
    have hchain (f : Failure) := runPipeline_chain m hregistry (p := p) (s := s) (f := f)
    unfold runSequence
    generalize runPipeline m set p s = r at hpipeline hchain ⊢
    obtain ⟨k | f | code' | _, t⟩ := r
    · exact hpipeline.trans (ih k t)
    · dsimp only
      cases hf : recoverable f with
      | none => exact hpipeline
      | some r =>
        -- the line goes on after a wrong use or an interrupt, and neither is an exit
        have hnone : Calls s t none := by
          have hcode : f.exitCode? = none := recoverable_exitCode? (hchain f rfl) hf
          rwa [PipelineEnd.failure?, Calls, Option.bind_some, hcode] at hpipeline
        have hnoted : t.Grows (·.quiet) (t.note r.2) := .note (.of_eq rfl) (quiet_of_recoverable hf)
        exact hnone.trans ((ih r.1 (t.note r.2)).after hnoted.unhooked)
    · exact hpipeline
    · exact hpipeline

/-- A line calls the exit hook with the code of the exit that it returns, and not otherwise. -/
theorem calls_execute (hregistry : set.registry = .default) (hhook : set.hook = .returns) (d : Draft) (s : Shell σ) :
    Calls s (execute m set d s).2 (execute m set d s).1.failure? := by
  have hstart : s.Grows (fun e => e.hookCode? = none) (s.ready m set) :=
    ((s.grows_absorb m set.capture).trans (grows_dropStale (s.absorb m set.capture))).unhooked
  cases hd : d.pipelines with
  | error c =>
    rw [Draft.execute_error m set hd]
    refine hstart.calls ?_
    cases d <;> cases hd <;> rfl
  | ok ps =>
    have hcleared : s.Grows (fun e => e.hookCode? = none) (s.cleared m set) := hstart
    have hsequence := (calls_runSequence m hregistry hhook ps 0 (s.cleared m set)).after hcleared
    rw [Draft.execute_eq m set hd]
    generalize runSequence m set ps 0 (s.cleared m set) = r at hsequence ⊢
    obtain ⟨k | f | code | _, t⟩ := r <;> exact hsequence

end

end AuditShell
