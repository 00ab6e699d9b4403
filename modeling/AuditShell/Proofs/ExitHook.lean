import AuditShell.Proofs.HookCalls
/-!
# The exit hook

`execute_exitHook`: with `cd` and `exit` alone, and a hook that comes back, a line calls the hook exactly where it
returns an exit. It does so where its run comes to an `exit` with a code (`ComesTo`, `exists_arrival`). After the call
the shell only winds the pipeline up: it closes what the pipeline has open, and kills and waits for what it has started
(`WoundUp`).
-/
namespace AuditShell

variable {σ : Type}

/-! ## Where a run exits -/

/-- A command of a pipeline, with the shell when a run has come to it. -/
structure Arrival (σ : Type) where
  /-- The commands in front of it in its pipeline. -/
  first : Pipeline
  command : Command
  rest : Pipeline
  /-- The shell in which its pipeline begins. -/
  begun : Shell σ
  /-- What its pipeline has started and opened by then. -/
  plumbing : Plumbing
  /-- The files of its own redirects. -/
  opened : Opened
  /-- The shell when these are open. -/
  shell : Shell σ

/-- The whole pipeline. -/
def Arrival.pipeline (a : Arrival σ) : Pipeline := a.first ++ a.command :: a.rest

section

variable (m : Machine σ) (set : Settings)

/-- The run of a pipeline comes to a command: those in front of it were started, and its own redirects are open. -/
structure Arrival.Reached (a : Arrival σ) : Prop where
  started : ∃ u, Reaches m set (a.begun.note (.pipeline (Pipeline.render a.pipeline))) a.first a.plumbing u ∧
    openRedirects m a.command u = (.ok a.opened, a.shell)

/-- The run of a draft comes to a command: each pipeline before its own has left a code. -/
inductive ComesTo (d : Draft) (s : Shell σ) (a : Arrival σ) : Prop where
  | intro {before after : List (Option Stages)} {ns : List Int}
      (hd : d.pipelines = .ok (before ++ some (Stages.ofPipeline a.pipeline) :: after))
      (hbefore : Passes m set before (s.cleared m set) ns a.begun) (hreached : a.Reached m set)

variable {m set}

theorem exit_of_startCommand (hregistry : set.registry = .default) {c : Command} (hwords : c.words ≠ []) {stdin : Source}
    {stdout : Sink} {p : Plumbing} {s : Shell σ} {f : Failure} {n : Int}
    (h : (startCommand m set c stdin stdout p s).1 = .failed f) (hf : f.exitCode? = some n) :
    (∃ o t, openRedirects m c s = (.ok o, t)) ∧ c.name = text "exit" ∧ ExitCode c.args n := by
  have hopen : ∃ o t, openRedirects m c s = (.ok o, t) := by
    rcases hopen : openRedirects m c s with ⟨g | o, t⟩
    · simp only [startCommand, hopen] at h
      cases h
      cases hf.symm.trans (openRedirects_exitCode? m hwords (congrArg Prod.fst hopen))
    · exact ⟨o, t, rfl⟩
  refine ⟨hopen, ?_⟩
  cases stageFails_startCommand m set hwords h with
  | system h => cases hf.symm.trans h.exitCode?
  | defect _ h => cases hf.symm.trans h.exitCode?
  | builtin hc hb h =>
    cases List.mem_singleton.1 hc
    rw [hregistry, Registry.lookup_default] at hb
    split at hb
    · cases hb
      obtain ⟨detail, rfl⟩ := Builtin.cd_fails h
      cases hf
    · split at hb
      next hname =>
        cases hb
        rcases Builtin.exit_fails h with ⟨detail, rfl⟩ | ⟨k, rfl⟩
        · cases hf
        · cases hf
          exact ⟨hname, Builtin.exit_fails_iff.1 h⟩
      · cases hb

theorem lookup_exit (hregistry : set.registry = .default) {c : Command} (hname : c.name = text "exit") :
    set.registry.lookup c.name = some .exit := by
  rw [hregistry, Registry.lookup_default, hname, if_neg (by decide), if_pos rfl]

theorem exit_of_startStage (hregistry : set.registry = .default) {last : Bool} {c : Command} (hwords : c.words ≠ [])
    {p : Plumbing} {s : Shell σ} {f : Failure} {n : Int} (h : (startStage m set last c p s).1 = .failed f)
    (hf : f.exitCode? = some n) :
    (∃ o t, openRedirects m c s = (.ok o, t)) ∧ c.name = text "exit" ∧ ExitCode c.args n := by
  revert h
  rw [startStage_eq]
  split
  · rw [passOn_end]
    exact fun h => exit_of_startCommand hregistry hwords h hf
  next hexternal =>
    rcases m.makePipe s.fresh s.world with ⟨_ | e, w⟩
    · rw [passOn_end]
      intro h
      -- a builtin gets no pipe
      obtain ⟨-, hname, -⟩ := exit_of_startCommand hregistry hwords h hf
      rw [lookup_exit hregistry hname] at hexternal
      simp at hexternal
    · rintro ⟨⟩
      cases hf

/-- Where the stages of a pipeline fail with an exit, the run has come to an `exit` with that code. -/
theorem exit_of_startStages (hregistry : set.registry = .default) {s : Shell σ} {first p : Pipeline} {q : Plumbing}
    {t : Shell σ} {f : Failure} {n : Int} (hreach : Reaches m set s first q t)
    (h : (startStages m set (Stages.ofPipeline p) q t).1 = .failed f) (hf : f.exitCode? = some n) :
    ∃ before c rest q' u o v, first ++ p = before ++ c :: rest ∧ Reaches m set s before q' u ∧
      openRedirects m c u = (.ok o, v) ∧ c.name = text "exit" ∧ ExitCode c.args n := by
  -- the commands that were started move over to those in front
  induction p generalizing first q t with
  | nil => cases h
  | cons c p ih =>
    by_cases hwords : c.words = []
    · simp only [Stages.ofPipeline, List.map_cons, startStages, hwords, if_true] at h
      cases h
      cases hf
    · simp only [Stages.ofPipeline, List.map_cons, startStages, hwords, if_false] at h
      rcases hstage : startStage m set (p.map some).isEmpty c q t with ⟨_ | g | code, q', t'⟩
      · rw [hstage] at h
        cases p with
        | nil => cases h
        | cons d p =>
          obtain ⟨before, c', rest, q'', u, o, v, hp, hrest⟩ := ih (hreach.next hwords hstage) h
          exact ⟨before, c', rest, q'', u, o, v, by rw [← hp]; simp, hrest⟩
      · rw [hstage] at h
        cases h
        obtain ⟨⟨o, v, hopen⟩, hexit⟩ := exit_of_startStage hregistry hwords (congrArg Prod.fst hstage) hf
        exact ⟨first, c, p, q, t, o, v, rfl, hreach, hopen, hexit⟩
      · rw [hstage] at h
        cases h

theorem exit_of_runPipeline (hregistry : set.registry = .default) {p : Option Stages} {s : Shell σ} {f : Failure}
    {n : Int} (h : (runPipeline m set p s).1 = .failed f) (hf : f.exitCode? = some n) :
    ∃ a : Arrival σ, a.begun = s ∧ p = some (Stages.ofPipeline a.pipeline) ∧ a.Reached m set ∧
      a.command.name = text "exit" ∧ ExitCode a.command.args n := by
  rcases runPipeline_fails m set h with ⟨-, rfl⟩ | ⟨q, rfl, -⟩
  · cases hf
  by_cases hne : q = []
  · cases hne
    cases h
    cases hf
  · rw [runPipeline_ofPipeline m set hne, runStages] at h
    rcases hstages : startStages m set (Stages.ofPipeline q) {} (s.note (.pipeline (Pipeline.render q))) with
      ⟨_ | g | code, p, t⟩
    · rw [hstages] at h
      rcases hall : awaitAll m set p.processes none t with ⟨g | last, u⟩
      · simp only [hall] at h
        cases h
        cases hf.symm.trans (awaitAll_fails m set (congrArg Prod.fst hall)).exitCode?
      · simp only [hall] at h
        cases h
    · rw [hstages] at h
      cases h
      obtain ⟨before, c, rest, q', u, o, v, rfl, hreach, hopen, hexit⟩ :=
        exit_of_startStages hregistry .start (congrArg Prod.fst hstages) hf
      exact ⟨⟨before, c, rest, s, q', o, v⟩, rfl, rfl, ⟨u, hreach, hopen⟩, hexit⟩
    · rw [hstages] at h
      cases h

/-- Where a line returns an exit, its run has come to an `exit` with that code. -/
theorem exists_arrival (hregistry : set.registry = .default) {d : Draft} {s : Shell σ} {f : Failure} {n : Int}
    (h : (execute m set d s).1.failure? = some f) (hf : f.exitCode? = some n) :
    ∃ a : Arrival σ, ComesTo m set d s a ∧ a.command.name = text "exit" ∧ ExitCode a.command.args n := by
  rcases hrun : (execute m set d s).1 with ⟨result, failure⟩ | code | _
  · rw [hrun] at h
    cases h
    cases hd : d.pipelines with
    | error c =>
      rw [Draft.execute_error m set hd] at hrun
      cases hrun
      cases d <;> cases hd <;> cases hf
    | ok ps =>
      obtain ⟨before, p, after, ns, t, rfl, hbefore, hfailed⟩ := exists_failed_pipeline m set hd hrun
      obtain ⟨a, rfl, rfl, hreached, hexit⟩ := exit_of_runPipeline hregistry hfailed hf
      exact ⟨a, ⟨hd, hbefore, hreached⟩, hexit⟩
  · rw [hrun] at h
    cases h
  · rw [hrun] at h
    cases h

end

/-! ## Winding up -/

/-- A request with which a pipeline is wound up. -/
inductive Release where
  | closeReader (pipe : Nat)
  | kill (process : Nat)
  | reap (process : Nat)
  | closeFile (file : Nat)
  deriving DecidableEq, Repr

/-- The world after such a request. -/
def Machine.release (m : Machine σ) : Release → σ → σ
  | .closeReader pipe, w => m.closeReader pipe w
  | .kill process, w => m.kill process w
  | .reap process, w => (m.reap process w).2
  | .closeFile file, w => m.closeFile file w

/-- The machine was asked for these, in order, and for nothing else. Outside something may have happened in between. -/
inductive Machine.Releases (m : Machine σ) : List Release → σ → σ → Prop where
  | done {w : σ} : Releases m [] w w
  | release {r : Release} {rs : List Release} {w w' : σ} (h : Releases m rs (m.release r w) w') :
      Releases m (r :: rs) w w'
  | meanwhile {rs : List Release} {w w' : σ} (h : Releases m rs (m.meanwhile w).2 w') : Releases m rs w w'

theorem Machine.Releases.trans {m : Machine σ} {rs rs' : List Release} {w w' w'' : σ} (h : m.Releases rs w w')
    (h' : m.Releases rs' w' w'') : m.Releases (rs ++ rs') w w'' := by
  induction h with
  | done => exact h'
  | release _ ih => exact .release (ih h')
  | meanwhile _ ih => exact .meanwhile (ih h')

/-- What these requests do not change, and nothing outside does, stays. -/
theorem Machine.Releases.keeps {α : Type} {m : Machine σ} {rs : List Release} {w w' : σ} (h : m.Releases rs w w')
    {g : σ → α} (hrelease : ∀ r w, g (m.release r w) = g w) (hmeanwhile : ∀ w, g (m.meanwhile w).2 = g w) : g w' = g w := by
  induction h with
  | done => rfl
  | release _ ih => rw [ih, hrelease]
  | meanwhile _ ih => rw [ih, hmeanwhile]

section

variable (m : Machine σ) (set : Settings)

/-- The requests for the children of a pipeline that has failed. -/
def Release.children (ps : List Nat) : List Release := ps.flatMap fun p => [.kill p, .reap p]

theorem releases_reapAll (ps : List Nat) (s : Shell σ) :
    m.Releases (Release.children ps) s.world (reapAll m set ps s).world := by
  induction ps generalizing s with
  | nil => exact .done
  | cons p ps ih =>
    unfold reapAll
    have hrest := ih ((({ s with world := (m.reap p (m.kill p s.world)).2 } : Shell σ).absorb m set.capture).untrack p)
    have hworld := absorb_world m set.capture { s with world := (m.reap p (m.kill p s.world)).2 }
    refine .release (r := .kill p) (.release (r := .reap p) (.meanwhile ?_))
    change m.Releases _ (Shell.absorb m set.capture _).world _ at hrest
    rw [hworld] at hrest
    exact hrest

theorem releases_closeAll (p : Plumbing) (s : Shell σ) :
    m.Releases (p.reader.toList.map .closeReader ++ p.files.map .closeFile) s.world (closeAll m p s).world := by
  have hfiles (files : List Nat) (t : Shell σ) :
      m.Releases (files.map .closeFile) t.world (files.foldl (fun s f => s.closeFile m f) t).world := by
    induction files generalizing t with
    | nil => exact .done
    | cons file files ih => exact .release (ih (t.closeFile m file))
  unfold closeAll
  cases p.reader with
  | none => exact hfiles p.files s
  | some q => exact .release (hfiles p.files (s.closeReader m q))

theorem releases_handOver (p : Plumbing) (s : Shell σ) :
    m.Releases (p.reader.toList.map .closeReader) s.world (handOver m none p s).2.world := by
  unfold handOver
  cases p.reader with
  | none => exact .done
  | some q => exact .release .done

/-- The requests with which the pipeline of a command is wound up when the command has failed: the pipe that it reads is
closed, each child is killed and waited for, and the files are closed. -/
def Arrival.releases (a : Arrival σ) : List Release :=
  a.plumbing.reader.toList.map .closeReader ++ Release.children a.plumbing.processes ++
    (a.plumbing.files ++ a.opened.files).map .closeFile

/-- The shell when a command has called the hook. -/
def Arrival.hooked (a : Arrival σ) (n : Int) : Shell σ :=
  (a.shell.note (.builtin a.command.name a.command.args)).hooked m set n

/-- The shell when the pipeline of a command that has failed is wound up. -/
def Arrival.close (a : Arrival σ) (s : Shell σ) : Shell σ :=
  closeAll m { a.plumbing with files := a.plumbing.files ++ a.opened.files, reader := none }
    (reapAll m set a.plumbing.processes (handOver m none a.plumbing s).2)

theorem Arrival.winds_close (a : Arrival σ) (s : Shell σ) : s.Grows (·.winding) (a.close m set s) :=
  ((winds_handOver m none a.plumbing s).trans (winds_reapAll m set a.plumbing.processes _)).trans (winds_closeAll m _ _)

theorem Arrival.releases_close (a : Arrival σ) (s : Shell σ) : m.Releases a.releases s.world (a.close m set s).world :=
  ((releases_handOver m a.plumbing s).trans (releases_reapAll m set a.plumbing.processes _)).trans
    (releases_closeAll m { a.plumbing with files := a.plumbing.files ++ a.opened.files, reader := none } _)

variable {m set}

theorem runPipeline_fails_at {a : Arrival σ} (ha : a.Reached m set) {b : Builtin} (hwords : a.command.words ≠ [])
    (hlookup : set.registry.lookup a.command.name = some b) {f : Failure} {t : Shell σ}
    (hrun : runAction m set (b.run a.command.args) (a.shell.note (.builtin a.command.name a.command.args)) =
      (.returned (some f), t)) :
    runPipeline m set (some (Stages.ofPipeline a.pipeline)) a.begun = (.failed f, a.close m set t) := by
  obtain ⟨u, hreach, hopen⟩ := ha.started
  have hcommand (stdin : Source) : startCommand m set a.command stdin .line a.plumbing u =
      (.failed f, { a.plumbing with files := a.plumbing.files ++ a.opened.files }, t) := by
    rw [startCommand_builtin m set hopen hlookup, hrun]
    rfl
  have hstages : startStages m set (Stages.ofPipeline (a.command :: a.rest)) a.plumbing u =
      (.failed f, handOver m none { a.plumbing with files := a.plumbing.files ++ a.opened.files } t) := by
    change startStages m set (some a.command :: Stages.ofPipeline a.rest) a.plumbing u = _
    rw [startStages]
    simp only [hwords, if_false, startStage_eq, hlookup, Option.isSome_some, Bool.or_true, if_true, hcommand, passOn]
  have hne : a.pipeline ≠ [] := by simp [Arrival.pipeline]
  have hall := (hreach.startStages_eq a.command a.rest).trans hstages
  rw [runPipeline_ofPipeline m set hne, runStages]
  simp only [Arrival.pipeline] at hall ⊢
  rw [hall]
  rfl

theorem words_of_name {c : Command} (hname : c.name = text "exit") : c.words ≠ [] := by
  intro hempty
  rw [Command.name, hempty] at hname
  revert hname
  decide

/-- A pipeline whose run comes to an `exit` with a code fails with that code, and is wound up after the call. -/
theorem runPipeline_exit (hregistry : set.registry = .default) (hhook : set.hook = .returns) {a : Arrival σ} {n : Int}
    (ha : a.Reached m set) (hname : a.command.name = text "exit") (hn : ExitCode a.command.args n) :
    runPipeline m set (some (Stages.ofPipeline a.pipeline)) a.begun =
      (.failed (.exit n), a.close m set (a.hooked m set n)) := by
  refine runPipeline_fails_at ha (words_of_name hname) (lookup_exit hregistry hname) ?_
  rw [Builtin.exit_run_leave hn, runAction_leave_eq m hhook]
  rfl

theorem runPipeline_exit_usage (hregistry : set.registry = .default) {a : Arrival σ} (ha : a.Reached m set)
    (hname : a.command.name = text "exit") (hnone : ∀ n, ¬ ExitCode a.command.args n) :
    ∃ detail t, runPipeline m set (some (Stages.ofPipeline a.pipeline)) a.begun =
      (.failed (.usage (text "exit") detail), t) := by
  obtain ⟨detail, hrun⟩ := Builtin.exit_run_usage hnone
  let noted := a.shell.note (.builtin a.command.name a.command.args)
  have hfails : (runAction m set (Builtin.exit.run a.command.args) noted).1 = .returned (some (.usage (text "exit") detail)) := by
    rw [hrun]
    rfl
  exact ⟨detail, _, runPipeline_fails_at ha (words_of_name hname) (lookup_exit hregistry hname) (Prod.ext hfails rfl)⟩

theorem execute_exit (hregistry : set.registry = .default) (hhook : set.hook = .returns) {d : Draft} {s : Shell σ}
    {a : Arrival σ} {n : Int} (ha : ComesTo m set d s a) (hname : a.command.name = text "exit")
    (hn : ExitCode a.command.args n) :
    execute m set d s =
      (.returned (some ((a.close m set (a.hooked m set n)).result 0)) (some (.exit n)),
        a.close m set (a.hooked m set n)) := by
  obtain ⟨hd, hbefore, hreached⟩ := ha
  have hrun := runPipeline_exit hregistry hhook hreached hname hn
  have hfatal : (Failure.exit n).Fatal := by simp [Failure.Fatal, Failure.chain, Failure.isUsage, Failure.isInterrupted]
  rw [execute_of_stops m set hd hbefore (by rw [hrun]; exact hfatal), hrun]
  rfl

theorem Reaches.spawns {s t : Shell σ} {before : Pipeline} {p : Plumbing} (h : Reaches m set s before p t) :
    ∃ ls, t.launches = s.launches ++ ls ∧ p.processes = ls.map Prod.fst := by
  induction h with
  | start => exact ⟨[], (List.append_nil _).symm, rfl⟩
  | @next before c p p' t t' h hwords hstage ih =>
    obtain ⟨ls, hls, hprocesses⟩ := ih
    obtain ⟨ls', hls', hprocesses'⟩ := spawns_startStage m set false c p t
    rw [hstage] at hls' hprocesses'
    refine ⟨ls ++ ls', ?_, ?_⟩
    · rw [hls', hls, List.append_assoc]
    · rw [hprocesses', hprocesses, List.map_append]

variable (m set)

/-- What happens between the call of the hook by a command and the end of the line. -/
structure WoundUp (a : Arrival σ) (n : Int) (last : Shell σ) : Prop where
  /-- The call is the last that the shell has noted by then. -/
  hook : (a.hooked m set n).journal.getLast? = some (.exitHook n)
  /-- No stage is started after the call, no pipeline begins, and no file is opened. -/
  events : (a.hooked m set n).Grows (·.winding) last
  /-- All that the machine is asked for: what is open is closed, and each child is killed and waited for. -/
  requests : m.Releases a.releases (a.hooked m set n).world last.world
  /-- The children are what the pipeline has started. -/
  children : ∃ ls, (a.hooked m set n).launches = a.begun.launches ++ ls ∧ a.plumbing.processes = ls.map Prod.fst
  foreground : last.foreground.Perm a.begun.foreground
  /-- Where only a change of directory changes the working directory, it stays. -/
  cwd : (∀ r w, m.cwd (m.release r w) = m.cwd w) → (∀ w, m.cwd (m.meanwhile w).2 = m.cwd w) →
    m.cwd last.world = m.cwd (a.hooked m set n).world

variable {m set}

theorem Arrival.exists_launches {a : Arrival σ} (ha : a.Reached m set) (n : Int) :
    ∃ ls, (a.hooked m set n).launches = a.begun.launches ++ ls ∧ a.plumbing.processes = ls.map Prod.fst := by
  obtain ⟨u, hreach, hopen⟩ := ha.started
  obtain ⟨ls, hls, hprocesses⟩ := hreach.spawns
  refine ⟨ls, ?_, hprocesses⟩
  have hopened := (grows_openRedirects m a.command u).quiet_launches
  rw [hopen] at hopened
  have hnoted (t : Shell σ) {e : Event} (he : e.launch? = none) : (t.note e).launches = t.launches :=
    Shell.Grows.launches_eq (.note (.of_eq rfl) he)
  rw [Arrival.hooked, launches_hooked, hnoted _ rfl, hopened, hls, hnoted _ rfl]

theorem woundUp_execute (hregistry : set.registry = .default) (hhook : set.hook = .returns) {d : Draft} {s : Shell σ}
    {a : Arrival σ} {n : Int} (ha : ComesTo m set d s a) (hname : a.command.name = text "exit")
    (hn : ExitCode a.command.args n) : WoundUp m set a n (execute m set d s).2 := by
  obtain ⟨hd, hbefore, hreached⟩ := id ha
  have hrun := runPipeline_exit hregistry hhook hreached hname hn
  have hclosed := runPipeline_closed m set (p := some (Stages.ofPipeline a.pipeline)) (s := a.begun) (by simp [hrun])
  rw [hrun] at hclosed
  rw [execute_exit hregistry hhook ha hname hn]
  have hrequests := a.releases_close m set (a.hooked m set n)
  exact ⟨List.getLast?_concat, a.winds_close m set _, hrequests, Arrival.exists_launches hreached n, hclosed.2,
    hrequests.keeps⟩

end

/-! ## Lines -/

/-- The exit hook is called exactly when a line returns an exit. With `cd` and `exit` alone, and a hook that comes back,
running any tree calls the hook once where it returns an exit, with its code, and not otherwise. It returns an exit
exactly where its run comes to an `exit` whose arguments say a code, and that is the code. After the call the shell only
winds the pipeline up. An `exit` whose arguments say no code is a usage failure, and the hook is not called. -/
theorem execute_exitHook (m : Machine σ) {set : Settings} (hregistry : set.registry = .default)
    (hhook : set.hook = .returns) (d : Draft) (s : Shell σ) :
    let run := execute m set d s
    let code? := run.1.failure?.bind Failure.exitCode?
    run.2.hookCalls = s.hookCalls ++ code?.toList ∧
    (∀ n, code? = some n → ∃ result, run.1 = .returned (some result) (some (.exit n))) ∧
    (∀ n, code? = some n ↔ ∃ a, ComesTo m set d s a ∧ a.command.name = text "exit" ∧ ExitCode a.command.args n) ∧
    ∀ a, ComesTo m set d s a → a.command.name = text "exit" →
      (∀ n, ExitCode a.command.args n → WoundUp m set a n run.2) ∧
      ((∀ n, ¬ ExitCode a.command.args n) →
        ∃ detail t, runPipeline m set (some (Stages.ofPipeline a.pipeline)) a.begun =
          (.failed (.usage (text "exit") detail), t) ∧ t.hookCalls = a.begun.hookCalls) := by
  intro run code?
  have harrival (n : Int) (hn : code? = some n) :
      ∃ a, ComesTo m set d s a ∧ a.command.name = text "exit" ∧ ExitCode a.command.args n := by
    obtain ⟨f, hf, hcode⟩ := Option.bind_eq_some_iff.1 hn
    exact exists_arrival hregistry hf hcode
  have hreturned {a : Arrival σ} {n : Int} (ha : ComesTo m set d s a) (hname : a.command.name = text "exit")
      (hn : ExitCode a.command.args n) : ∃ result, run.1 = .returned (some result) (some (.exit n)) :=
    ⟨_, congrArg Prod.fst (execute_exit hregistry hhook ha hname hn)⟩
  refine ⟨calls_execute m hregistry hhook d s, fun n hn => ?_, fun n => ⟨harrival n, ?_⟩,
    fun a ha hname => ⟨fun n hn => ?_, fun hnone => ?_⟩⟩
  · obtain ⟨a, ha, hname, hcode⟩ := harrival n hn
    exact hreturned ha hname hcode
  · rintro ⟨a, ha, hname, hn⟩
    obtain ⟨result, hresult⟩ := hreturned ha hname hn
    simp only [code?, hresult]
    rfl
  · exact woundUp_execute hregistry hhook ha hname hn
  · obtain ⟨-, -, hreached⟩ := ha
    obtain ⟨detail, t, hrun⟩ := runPipeline_exit_usage hregistry hreached hname hnone
    have hcalls := calls_runPipeline m hregistry hhook (some (Stages.ofPipeline a.pipeline)) a.begun
    rw [hrun] at hcalls
    exact ⟨detail, t, hrun, Eq.trans hcalls (List.append_nil _)⟩

/-- A usage failure before it does not keep an exit from being reached. A child was started in front of it, and nothing is
started behind it. -/
theorem execute_exitHook_amid :
    let d : Draft := .sequence [some [some ⟨[text "cd", text "x", text "y"], []⟩],
      some [some ⟨[text "sleep"], []⟩, some ⟨[text "exit", text "-7"], [⟨.output, text "f"⟩]⟩, some ⟨[text "wc"], []⟩],
      some [some ⟨[text "true"], []⟩]]
    let run := execute (.idle Unit) {} d { world := () }
    run.2.hookCalls = [-7] ∧ run.2.launches.map (·.2.words) = [[text "sleep"]] ∧
      ∃ a, ComesTo (.idle Unit) {} d { world := () } a ∧ ExitCode a.command.args (-7) ∧
        WoundUp (.idle Unit) {} a (-7) run.2 := by
  intro d run
  obtain ⟨hcalls, -, harrives, hcommand⟩ := @execute_exitHook Unit (.idle Unit) {} rfl rfl d { world := () }
  have hcode : run.1.failure?.bind Failure.exitCode? = some (-7) := by decide +kernel
  obtain ⟨a, ha, hname, hargs⟩ := (harrives (-7)).1 hcode
  refine ⟨?_, by decide +kernel, a, ha, hargs, (hcommand a ha hname).1 (-7) hargs⟩
  rw [hcalls, hcode]
  rfl

end AuditShell
