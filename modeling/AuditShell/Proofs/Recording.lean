import AuditShell.Proofs.Entry
import AuditShell.Proofs.Exit
import AuditShell.Proofs.Scan
import AuditShell.Audit.Memory
import AuditShell.Digest
import AuditShell.Runner
/-!
# Lines in the log

`attempt` is a line up to its record. It comes to something that is recorded, unless the line is blank or
has ended the shell (`exits_attempt`).

`runLine_recorded`: a line that is not blank has one entry in the log when it is over, and the entry says
where a builtin left the shell. A line is lost where the exit hook does not come back: it ends the shell
before the line is recorded, so the exit itself is never in the log. What the shell adds to the log is seen by
a recorder that notes it (`Recorder.noted`), and a run with it is the run itself (`attempt_map`).
-/
namespace AuditShell

variable {σ τ : Type}

/-! ## Blank lines -/

/-- Lexemes without a token are white space. -/
theorem Cuts.blank_of_tokensAt {ls : List Lexeme} {line tail : List Char} (h : Cuts ls line tail) {pos : Nat}
    (hnone : tokensAt pos ls = []) : ∀ c ∈ ls.flatMap Lexeme.chars, isBlank c = true := by
  induction h generalizing pos with
  | nil => simp
  | cons hl hs ih =>
    rw [tokensAt, List.append_eq_nil_iff] at hnone
    intro c hc
    rw [List.flatMap_cons, List.mem_append] at hc
    rcases hc with hc | hc
    · cases hl with
      | blank hblank =>
        cases List.mem_singleton.1 hc
        exact hblank
      | _ => simp [Lexeme.token?] at hnone
    · exact ih hnone.2 c hc

/-- A line with a character that is not white space has a token. -/
theorem isEmptyLine_of_scan {line : Bytes} {ts : List Token} (hscan : Token.scan line = .ok ts)
    (hline : ∃ c ∈ Utf8.decode line, isBlank c = false) : Token.isEmptyLine ts = false := by
  obtain ⟨c, hc, hblank⟩ := hline
  obtain ⟨ls, tail, hcuts, rfl | ⟨d, rest, rfl, hd⟩⟩ := exists_cuts (Utf8.decode line)
  · rw [Token.scan, scanChars_of_cuts hcuts] at hscan
    cases hscan
    cases hts : tokensAt 0 ls with
    | nil =>
      have hmem : c ∈ ls.flatMap Lexeme.chars := by
        have := hcuts.line_eq
        rw [List.append_nil] at this
        rwa [← this]
      rw [hcuts.blank_of_tokensAt hts c hmem] at hblank
      cases hblank
    | cons t ts => cases ts <;> rfl
  · rw [Token.scan, scanChars_of_stray hcuts hd] at hscan
    cases hscan

/-- A line that reads as a tree has a token. -/
theorem isEmptyLine_of_ofTokens {ts : List Token} {tree : Tree} (h : Tree.ofTokens ts = .ok tree) :
    Token.isEmptyLine ts = false := by
  match ts with
  | [] => rfl
  | _ :: _ :: _ => rfl
  | [t] =>
    by_contra hempty
    have hfinish : t.kind = .finish := by simpa [Token.isEmptyLine] using hempty
    simp [Tree.ofTokens, Tree.ofTokensFrom, Tree.readToken, hfinish] at h

/-! ## A line up to its record -/

/-- What a line comes to before it is recorded. -/
inductive Attempt where
  /-- The line is blank. -/
  | skipped
  /-- The shell has ended. -/
  | ended (code : Int)
  | crashed
  /-- The line is to be recorded. -/
  | done (commands : Option (List Bytes)) (result : Option Result) (error : Option LineError)

namespace LineEnd

/-- What a line with these commands comes to that has ended. -/
def attempt (commands : List Bytes) : LineEnd → Attempt
  | .returned result failure => .done (some commands) result (failure.map .failed)
  | .terminated code => .ended code
  | .crashed => .crashed

/-- The result of a line that came back. -/
def result? : LineEnd → Option Result
  | .returned result _ => result
  | _ => none

end LineEnd

/-- What a line comes to in which a builtin leaves the shell. -/
def Attempt.Left (n : Int) (a : Attempt) : ExitHook → Prop
  | .returns => ∃ commands result, a = .done commands result (some (.failed (.exit n)))
  | .terminates => a = .ended n

theorem LineEnd.Left.attempt {e : LineEnd} {n : Int} {hook : ExitHook} (h : e.Left n hook) (commands : List Bytes) :
    (e.attempt commands).Left n hook := by
  cases hook with
  | returns =>
    obtain ⟨result, rfl⟩ := h
    exact ⟨some commands, some result, rfl⟩
  | terminates =>
    cases h
    rfl

theorem LineEnd.attempt_ended {e : LineEnd} {commands : List Bytes} {code : Int} (h : e.attempt commands = .ended code) :
    e = .terminated code := by
  cases e <;> cases h
  rfl

section

variable (m : Machine σ) (set : Settings) (line : Bytes)

/-- A line up to its record. -/
def attempt (s : Shell σ) : Attempt × Shell σ :=
  match Token.scan line with
  | .error e => (.done none none (some (.unreadable (.scan e))), s)
  | .ok tokens =>
    if Token.isEmptyLine tokens then (.skipped, s)
    else
      match Tree.ofTokens tokens with
      | .error e => (.done none none (some (.unreadable (.parse e))), s)
      | .ok tree =>
        let (e, shell) := execute m set (.ofTree tree) (s.note (.parsed line tree.dump))
        (e.attempt tree.names, shell.deliver e.result?)

/-- Ends a line: what it came to is recorded. -/
def Attempt.finish (rec : Recorder σ) (s : Session σ) : Attempt × Shell σ → RunEnd × Session σ
  | (.skipped, shell) => (.returned none none, { s with shell })
  | (.ended code, shell) => (.terminated code, { s with shell })
  | (.crashed, shell) => (.crashed, { s with shell })
  | (.done commands result error, shell) =>
    (.returned result error, ({ s with shell } : Session σ).record rec
      (lineRecord line commands result error (elapsed (rec.now s.shell.world) (rec.now shell.world))
        (m.cwd s.shell.world)))

theorem runLine_eq (rec : Recorder σ) (s : Session σ) :
    runLine m set rec line s = Attempt.finish m line rec s (attempt m set line s.shell) := by
  unfold runLine attempt
  cases Token.scan line with
  | error e => rfl
  | ok tokens =>
    dsimp only
    split
    · rfl
    · cases Tree.ofTokens tokens with
      | error e => rfl
      | ok tree =>
        dsimp only
        rcases execute m set (.ofTree tree) (s.shell.note (.parsed line tree.dump)) with ⟨_ | _ | _, t⟩ <;> rfl

/-- A line that reads as a tree runs the tree. -/
theorem attempt_ofTree {tree : Tree} (h : Tree.ofLine line = .ok tree) (s : Shell σ) :
    attempt m set line s =
      let run := execute m set (.ofTree tree) (s.note (.parsed line tree.dump))
      (run.1.attempt tree.names, run.2.deliver run.1.result?) := by
  unfold Tree.ofLine at h
  unfold attempt
  cases hscan : Token.scan line with
  | error e =>
    rw [hscan] at h
    cases h
  | ok tokens =>
    rw [hscan] at h
    dsimp only at h ⊢
    cases htree : Tree.ofTokens tokens with
    | error e =>
      rw [htree] at h
      cases h
    | ok t =>
      rw [htree] at h
      cases h
      rw [isEmptyLine_of_ofTokens htree]
      rfl

/-- A line that does not read as a tree is to be recorded with nothing done, unless it is blank. -/
theorem attempt_unreadable {e : SyntaxError} (h : Tree.ofLine line = .error e)
    (hline : ∃ c ∈ Utf8.decode line, isBlank c = false) (s : Shell σ) :
    attempt m set line s = (.done none none (some (.unreadable e)), s) := by
  unfold Tree.ofLine at h
  unfold attempt
  cases hscan : Token.scan line with
  | error e =>
    rw [hscan] at h
    cases h
    rfl
  | ok tokens =>
    rw [hscan] at h
    dsimp only at h ⊢
    rw [isEmptyLine_of_scan hscan hline]
    cases htree : Tree.ofTokens tokens with
    | error e =>
      rw [htree] at h
      cases h
      rfl
    | ok t =>
      rw [htree] at h
      cases h

theorem attempt_view {m : Machine σ} {n : Machine τ} {set set' : Settings} {f : σ → τ} {j : List Event → List Event}
    (h : Shell.Hom m n set set' f id j) (s : Shell σ) :
    attempt n set' line (s.view f id j) = Prod.map id (Shell.view f id j) (attempt m set line s) := by
  have hdeliver (t : Shell σ) (result : Option Result) :
      (t.view f id j).deliver result = (t.deliver result).view f id j := by
    cases result with
    | none => rfl
    | some r => exact Shell.note_view h t (.delivered r.stdout r.stderr) rfl
  unfold attempt
  cases Token.scan line with
  | error e => rfl
  | ok tokens =>
    dsimp only
    split
    · rfl
    · cases Tree.ofTokens tokens with
      | error e => rfl
      | ok tree =>
        dsimp only
        rw [Shell.note_view h s (.parsed line tree.dump) rfl, execute_view h]
        exact Prod.ext rfl (hdeliver _ _)

theorem attempt_map {m : Machine σ} {n : Machine τ} {f : σ → τ} (h : m.Hom n f) (s : Shell σ) :
    attempt n set line (s.map f) = Prod.map id (Shell.map f) (attempt m set line s) :=
  attempt_view line (Shell.hom_map h set) s

theorem Shell.grows_deliver (s : Shell σ) (result : Option Result) : s.Grows (·.quiet) (s.deliver result) := by
  cases result with
  | none => exact .of_eq rfl
  | some r => exact .note (.of_eq rfl) rfl

/-- Where a builtin leaves the shell, the line comes to this exit. -/
theorem exits_attempt (s : Shell σ) :
    Exits set (fun n => (attempt m set line s).1.Left n set.hook)
      (fun code => (attempt m set line s).1 = .ended code) s (attempt m set line s).2 := by
  unfold attempt
  cases Token.scan line with
  | error e => exact .of_quiet (.of_eq rfl) (by simp)
  | ok tokens =>
    dsimp only
    split
    · exact .of_quiet (.of_eq rfl) (by simp)
    · cases Tree.ofTokens tokens with
      | error e => exact .of_quiet (.of_eq rfl) (by simp)
      | ok tree =>
        have hparsed : s.Grows (·.quiet) (s.note (.parsed line tree.dump)) := .note (.of_eq rfl) rfl
        have hrun := (exits_execute m set (.ofTree tree) (s.note (.parsed line tree.dump))).after hparsed
        dsimp only
        generalize execute m set (.ofTree tree) (s.note (.parsed line tree.dump)) = r at hrun ⊢
        refine ⟨(hrun.leaves.mono fun e he n hn => (he n hn).attempt tree.names).trans
          ((r.2.grows_deliver r.1.result?).leaves set _), fun code hcode => ?_⟩
        -- a line that has ended the shell has nothing to pass on
        have hend := LineEnd.attempt_ended hcode
        rw [hend]
        exact hrun.hook code hend

/-- A line that is not blank is to be recorded, unless it has ended the shell. -/
theorem attempt_cases (hline : ∃ c ∈ Utf8.decode line, isBlank c = false) (s : Shell σ) :
    (∃ commands result error, (attempt m set line s).1 = .done commands result error) ∨
      ∃ code, (attempt m set line s).1 = .ended code := by
  cases htree : Tree.ofLine line with
  | error e =>
    rw [attempt_unreadable m set line htree hline]
    exact .inl ⟨_, _, _, rfl⟩
  | ok tree =>
    have hcrash := execute_ofTree_ne_crashed m set tree (s.note (.parsed line tree.dump))
    rw [attempt_ofTree m set line htree]
    dsimp only
    generalize execute m set (.ofTree tree) (s.note (.parsed line tree.dump)) = r at hcrash ⊢
    obtain ⟨_ | code | _, t⟩ := r
    · exact .inl ⟨_, _, _, rfl⟩
    · exact .inr ⟨code, rfl⟩
    · exact absurd rfl hcrash

end

/-! ## Sequences of lines -/

/-- Takes a step with each line in turn, up to one that has ended the shell, and gives what each came to. -/
def runEach {α ε : Type} (step : Bytes → α → ε × α) (isOver : ε → Bool) : List Bytes → α → List ε × α
  | [], s => ([], s)
  | line :: lines, s =>
    let (e, s) := step line s
    if isOver e then ([e], s)
    else
      let (es, s) := runEach step isOver lines s
      (e :: es, s)

/-- Whether the shell has ended in the line. -/
def RunEnd.isOver : RunEnd → Bool
  | .returned _ _ => false
  | _ => true

/-- Runs lines one after another. -/
def runLines (m : Machine σ) (set : Settings) (rec : Recorder σ) (lines : List Bytes) (s : Session σ) :
    List RunEnd × Session σ :=
  runEach (runLine m set rec) RunEnd.isOver lines s

theorem runLines_cons {m : Machine σ} {set : Settings} {rec : Recorder σ} {line : Bytes} {s : Session σ}
    {result : Option Result} {error : Option LineError} (h : (runLine m set rec line s).1 = .returned result error)
    (lines : List Bytes) :
    runLines m set rec (line :: lines) s =
      (.returned result error :: (runLines m set rec lines (runLine m set rec line s).2).1,
        (runLines m set rec lines (runLine m set rec line s).2).2) := by
  unfold runLines
  rw [runEach]
  dsimp only
  rw [h]
  rfl

/-! ## What is added to the log -/

/-- A store with a list of the texts that were added beside its world, each with the path of its file. -/
def Audit.LogStore.noted (store : Audit.LogStore σ) : Audit.LogStore (σ × List (Bytes × Bytes)) where
  makeParent path w := Prod.map id (·, w.2) (store.makeParent path w.1)
  read path w := store.read path w.1
  append path t w :=
    match store.append path t w.1 with
    | (none, v) => (none, v, w.2 ++ [(path, t)])
    | (some e, v) => (some e, v, w.2)

/-- A recorder that notes what is added to the log. -/
def Recorder.noted (rec : Recorder σ) : Recorder (σ × List (Bytes × Bytes)) where
  store := rec.store.noted
  hash := rec.hash
  now w := rec.now w.1

/-- A session with something beside its world. -/
def Session.beside {α : Type} (s : Session σ) (a : α) : Session (σ × α) := ⟨s.shell.map (·, a), s.logger⟩

/-- The log at a path can be written: the store takes every text, and the time is one that an entry can
say. -/
structure Recorder.Works (rec : Recorder σ) (path : Bytes) (w : σ) : Prop where
  append : ∀ t, (rec.store.append path t w).1 = none
  now : ({ rec.now w with offset := 0 } : Instant).render ≠ none

/-- The entry of a record behind a position of the log. -/
def Recorder.entry (rec : Recorder σ) (l : Audit.Logger) (r : Audit.Record) (w : σ) : Audit.Entry :=
  l.chain.link rec.hash (.ofRecord r (rec.now w))

theorem Session.record_eq {rec : Recorder σ} {s : Session σ} {l : Audit.Logger} {r : Audit.Record} {t : Bytes} {w : σ}
    (hl : s.logger = some l) (ht : (rec.entry l r s.shell.world).encode = some t)
    (hw : rec.store.append l.path (t ++ [0x0A]) s.shell.world = (none, w)) :
    s.record rec r = ⟨{ s.shell with world := w }, some { l with chain := .advance (rec.entry l r s.shell.world) }⟩ := by
  unfold Recorder.entry at ht
  simp only [Session.record, hl, Audit.Logger.log, ht, hw]
  rfl

theorem Recorder.Works.encodes {rec : Recorder σ} {l : Audit.Logger} {w : σ} (h : rec.Works l.path w)
    (r : Audit.Record) : ∃ t, (rec.entry l r w).encode = some t := by
  have htime : (rec.entry l r w).time = { rec.now w with offset := 0 } := rfl
  refine Option.ne_none_iff_exists'.mp fun hnone => ?_
  rw [Audit.Entry.encode_eq_none, htime] at hnone
  exact h.now hnone

/-- A record becomes one entry in a log that can be written, and changes nothing else. -/
theorem record_noted {rec : Recorder σ} {s : Session σ} {l : Audit.Logger} (hl : s.logger = some l)
    (hworks : rec.Works l.path s.shell.world) (r : Audit.Record) :
    ∃ t, (rec.entry l r s.shell.world).encode = some t ∧
      (s.beside []).record rec.noted r = (s.record rec r).beside [(l.path, t ++ [0x0A])] ∧
      (s.record rec r).logger = some { l with chain := .advance (rec.entry l r s.shell.world) } ∧
      (s.record rec r).shell.journal = s.shell.journal := by
  obtain ⟨t, ht⟩ := hworks.encodes r
  have happend := hworks.append (t ++ [0x0A])
  rcases hw : rec.store.append l.path (t ++ [0x0A]) s.shell.world with ⟨_ | e, w⟩
  · have hnoted : rec.noted.store.append l.path (t ++ [0x0A]) (s.beside []).shell.world =
        (none, w, [(l.path, t ++ [0x0A])]) := by
      simp only [Recorder.noted, Audit.LogStore.noted, Session.beside, Shell.view_world, hw, List.nil_append]
    rw [Session.record_eq hl ht hw]
    exact ⟨t, ht, Session.record_eq hl ht hnoted, rfl, rfl⟩
  · rw [hw] at happend
    cases happend

/-! ## Every line is in the log, or ends the shell -/

section

variable (set : Settings) (rec : Recorder σ) (l : Audit.Logger) (line : Bytes) (s : Session σ) (run : RunEnd × Session σ)
  (stored : List (Bytes × Bytes))

/-- A run of a line has added the entry of a record to the log, and nothing else. The record is about the
line, with the outcome and the code of what the caller was given. Where a builtin has left the shell, they
are those of the exit. -/
structure Entered (r : Audit.Record) : Prop where
  line : r.line = line
  returned : ∃ result error, run.1 = .returned result error ∧ r.outcome = (lineOutcome result error).name ∧
    r.exitCode = lineStatus result error
  stored : ∃ w t, (rec.entry l r w).encode = some t ∧ stored = [(l.path, t ++ [0x0A])] ∧
    run.2.logger = some { l with chain := .advance (rec.entry l r w) }
  exit : s.shell.Grows (fun e => ∀ n, e.Leaves set n →
    set.hook = .returns ∧ r.outcome = Outcome.exit.name ∧ r.exitCode = n) run.2.shell

/-- A run of a line has ended the shell in its exit hook, and nothing was added to the log. -/
structure Lost : Prop where
  hook : set.hook = .terminates
  terminated : ∃ code, run.1 = .terminated code ∧ run.2.shell.journal.getLast? = some (.exitHook code)
  stored : stored = []
  logger : run.2.logger = some l

end

theorem Attempt.Left.done {a : Attempt} {n : Int} {hook : ExitHook} {commands : Option (List Bytes)}
    {result : Option Result} {error : Option LineError} (h : a.Left n hook) (ha : a = .done commands result error) :
    hook = .returns ∧ lineOutcome result error = .exit ∧ lineStatus result error = n := by
  subst ha
  cases hook with
  | returns =>
    obtain ⟨_, _, h⟩ := h
    cases h
    exact ⟨rfl, rfl, rfl⟩
  | terminates => cases h

/-- A line that is not blank is one entry in a log that can be written, or it has ended the shell in an
exit hook that does not come back. -/
theorem runLine_recorded (m : Machine σ) (set : Settings) (rec : Recorder σ) {s : Session σ} {l : Audit.Logger}
    {line : Bytes} (hl : s.logger = some l) (hworks : rec.Works l.path (attempt m set line s.shell).2.world)
    (hline : ∃ c ∈ Utf8.decode line, isBlank c = false) :
    ∃ stored,
      runLine (m.beside _) set rec.noted line (s.beside []) =
        ((runLine m set rec line s).1, (runLine m set rec line s).2.beside stored) ∧
      ((∃ r, Entered set rec l line s (runLine m set rec line s) stored r) ∨
        Lost set l (runLine m set rec line s) stored) := by
  have hexits := exits_attempt m set line s.shell
  have hcases := attempt_cases m set line hline s.shell
  have hnoted : attempt (m.beside _) set line (s.beside []).shell = _ :=
    attempt_map set line (m.beside_hom ([] : List (Bytes × Bytes))) s.shell
  rw [runLine_eq, runLine_eq, hnoted]
  generalize attempt m set line s.shell = r at hworks hexits hcases ⊢
  obtain ⟨a, shell⟩ := r
  rcases hcases with ⟨commands, result, error, ha⟩ | ⟨code, ha⟩
  · cases ha
    obtain ⟨t, ht, hstored, hlogger, hjournal⟩ := record_noted (s := { s with shell }) hl hworks
      (lineRecord line commands result error (elapsed (rec.now s.shell.world) (rec.now shell.world)) (m.cwd s.shell.world))
    refine ⟨_, Prod.ext rfl hstored, .inl ⟨_, rfl, ⟨result, error, rfl, rfl, rfl⟩, ⟨_, t, ht, rfl, hlogger⟩, ?_⟩⟩
    refine (hexits.leaves.mono fun e he n hn => ?_).trans (.of_eq hjournal)
    obtain ⟨hhook, houtcome, hstatus⟩ := (he n hn).done rfl
    exact ⟨hhook, congrArg Outcome.name houtcome, hstatus⟩
  · cases ha
    obtain ⟨hhook, hlast⟩ := hexits.hook code rfl
    exact ⟨[], rfl, .inr ⟨hhook, ⟨code, rfl, hlast⟩, rfl, hl⟩⟩

/-- A recorder that keeps the log in memory, with a clock that stands still. -/
def Recorder.memory : Recorder Audit.MemoryLog := ⟨Audit.MemoryLog.store, sha256, fun _ => ⟨0, 0, 0⟩⟩

/-- A session at the start of a log in memory. -/
def Session.memory : Session Audit.MemoryLog := ⟨⟨{}, .new, false, [], 0, [], [], []⟩, some ⟨text "log", .start sha256⟩⟩

theorem Recorder.memory_works (path : Bytes) : Recorder.memory.Works path {} := ⟨fun _ => rfl, by decide +kernel⟩

/-- An exit whose hook comes back is in the log with its outcome and its code. -/
theorem runLine_recorded_exit : ∃ stored r,
    Entered {} .memory ⟨text "log", .start sha256⟩ (text "exit 3") .memory
      (runLine (.idle _) {} .memory (text "exit 3") .memory) stored r ∧
    r.outcome = text "exit" ∧ r.exitCode = 3 := by
  have hworld : (attempt (.idle _) {} (text "exit 3") Session.memory.shell).2.world = {} := by decide +kernel
  have hline : ∃ c ∈ Utf8.decode (text "exit 3"), isBlank c = false := ⟨'e', by decide +kernel, rfl⟩
  obtain ⟨stored, -, ⟨r, h⟩ | h⟩ := runLine_recorded (.idle _) {} .memory (s := .memory) rfl
    (hworld ▸ Recorder.memory_works (text "log")) hline
  · have hran : .builtin (text "exit") [text "3"] ∈
        (runLine (.idle _) {} .memory (text "exit 3") .memory).2.shell.journal := by decide +kernel
    obtain ⟨es, hes, hexit⟩ := h.exit
    rw [hes] at hran
    have hleaves : Event.Leaves {} 3 (.builtin (text "exit") [text "3"]) := ⟨_, _, .exit, rfl, rfl, rfl⟩
    exact ⟨stored, r, h, (hexit _ hran 3 hleaves).2⟩
  · cases h.hook

/-- An exit whose hook does not come back is not in the log, which can be written all the time. -/
theorem runLine_loses_exit :
    let run := runLine (.idle _) { hook := .terminates } .memory (text "exit 3") .memory
    run.1 = .terminated 3 ∧ Recorder.memory.Works (text "log") run.2.shell.world ∧ run.2.shell.world.content = none := by
  have hworld : (runLine (.idle _) { hook := .terminates } .memory (text "exit 3") .memory).2.shell.world = {} := by
    decide +kernel
  refine ⟨by decide +kernel, ?_, ?_⟩
  · rw [hworld]
    exact Recorder.memory_works _
  · rw [hworld]

end AuditShell
