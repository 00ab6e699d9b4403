import AuditShell.Proofs.Log
import AuditShell.Proofs.Output
import AuditShell.Proofs.ReadBack
/-!
# The log as a transcript

Where the exit hook comes back and the log can be written, the lines of a session that are not blank and the entries
of its log belong together, one to one and in order (`session_transcribed`). An entry says what the line was, in which
directory it began, which commands it named, and what its caller was given.

The entries are added to the file to which the path of the log leads at that time. A relative path leads elsewhere
after a change of directory, and then the transcript is torn: no file holds all of it (`log_torn`).
-/

namespace AuditShell

variable {σ α π : Type} {m : Machine σ} {set : Settings} {rec : Recorder σ} {line : Bytes}

/-! ## Blank lines -/

/-- A line of white space. -/
def Blank (line : Bytes) : Prop := ∀ c ∈ Utf8.decode line, isBlank c = true

theorem ofLexemes_blank {cs : List Char} (h : ∀ c ∈ cs, isBlank c = true) (pos : Nat) :
    Token.ofLexemes pos (lexemes cs) = .ok [.ofOperator .finish (pos + cs.length : Nat)] := by
  induction cs generalizing pos with
  | nil => rfl
  | cons c cs ih =>
    rw [List.forall_mem_cons] at h
    have hfirst : lexemes (c :: cs) = .blank c :: lexemes cs := by
      unfold lexemes
      rw [lexemesFrom, Lexeme.first_blank h.1]
      rfl
    rw [hfirst, List.length_cons, Nat.add_comm cs.length 1, ← Nat.add_assoc]
    exact ih h.2 (pos + 1)

theorem runLine_blank (h : Blank line) (s : Session σ) : runLine m set rec line s = (.returned none none, s) := by
  unfold runLine
  rw [Token.scan, Token.scanChars, ofLexemes_blank h]
  rfl

theorem not_blank_iff : ¬ Blank line ↔ ∃ c ∈ Utf8.decode line, isBlank c = false := by
  simp [Blank]

/-! ## What no request changes -/

/-- No request changes what `g` tells of the world: the machine is the same with it beside the world. -/
def Machine.Keeps (m : Machine σ) (g : σ → α) : Prop := m.Hom (m.beside α) fun w => (w, g w)

theorem attempt_keeps {g : σ → α} (h : m.Keeps g) (set : Settings) (line : Bytes) (s : Shell σ) :
    g (attempt m set line s).2.world = g s.world := by
  have hwatched := attempt_map set line h s
  have hbeside := attempt_map set line (m.beside_hom (g s.world)) s
  -- at the start, what is told of the world is what stands beside it
  have hstart : s.map (fun w => (w, g w)) = s.map (·, g s.world) := rfl
  rw [hstart, hbeside] at hwatched
  have hworld := congrArg (fun r => r.2.world.2) hwatched
  exact hworld.symm

/-! ## Files of a log -/

/-- Files in which the entries of a log may be: the one to which the path of the log leads, and what each holds. -/
structure LogFiles (σ π : Type) where
  place : σ → π
  content : π → σ → Bytes

/-- The log can be written: every text is added to the file to which the path leads, and changes nothing else about
these files. The clock shows times that an entry can say. -/
structure LogFiles.Works (files : LogFiles σ π) (rec : Recorder σ) (path : Bytes) : Prop where
  append : ∀ t w, (rec.store.append path t w).1 = none
  added : ∀ t w,
    files.content (files.place w) (rec.store.append path t w).2 = files.content (files.place w) w ++ t
  others : ∀ t w q, q ≠ files.place w → files.content q (rec.store.append path t w).2 = files.content q w
  place : ∀ t w, files.place (rec.store.append path t w).2 = files.place w
  read : ∀ w, files.content (files.place w) w ≠ [] →
    rec.store.read path w = .ok (files.content (files.place w) w)
  nanos : ∀ w, (rec.now w).nanos < 1000000000
  now : ∀ w, ({ rec.now w with offset := 0 } : Instant).render ≠ none

/-- What the entry with a number says of a line that has run from a state. -/
structure Tells (m : Machine σ) (number : Nat) (line : Bytes) (s : Session σ) (run : RunEnd × Session σ)
    (e : Audit.Entry) : Prop where
  seq : e.seq = number.toUInt64
  /-- The directory in which the line began. -/
  cwd : e.cwd = Utf8.repair (m.cwd s.shell.world)
  /-- The names of all its commands, also where it ended early, and nothing for a line that was not read. -/
  commands : e.commands = (Tree.ofLine line).toOption.map Tree.names
  returned : ∃ result error, run.1 = .returned result error ∧ e.outcome = (lineOutcome result error).name ∧
    e.exitCode = lineStatus result error ∧ e.error = Utf8.repair ((error.map LineError.message).getD [])
  line : e.line = Utf8.repair line

/-- Lines have run one after another from a state to another one, and these entries, each with its file, tell of those
that are not blank. `number` counts the entries before. A blank line did nothing. -/
inductive Transcribed (m : Machine σ) (set : Settings) (rec : Recorder σ) (files : LogFiles σ π) :
    (number : Nat) → List Bytes → Session σ → List (π × Audit.Entry) → Session σ → Prop where
  | done {number : Nat} {s : Session σ} : Transcribed m set rec files number [] s [] s
  | blank {number : Nat} {line : Bytes} {lines : List Bytes} {s t : Session σ} {told : List (π × Audit.Entry)}
      (hline : Blank line) (hrun : runLine m set rec line s = (.returned none none, s))
      (hrest : Transcribed m set rec files number lines s told t) :
      Transcribed m set rec files number (line :: lines) s told t
  | entry {number : Nat} {line : Bytes} {lines : List Bytes} {s t : Session σ} {told : List (π × Audit.Entry)}
      {e : Audit.Entry} (hline : ¬ Blank line) (htells : Tells m (number + 1) line s (runLine m set rec line s) e)
      (hrest : Transcribed m set rec files (number + 1) lines (runLine m set rec line s).2 told t) :
      Transcribed m set rec files number (line :: lines) s
        ((files.place (runLine m set rec line s).2.shell.world, e) :: told) t

theorem Transcribed.place {files : LogFiles σ π} {number : Nat} {lines : List Bytes} {s t : Session σ}
    {told : List (π × Audit.Entry)} (h : Transcribed m set rec files number lines s told t) {x : π × Audit.Entry}
    (hx : x ∈ told) : ∃ w, x.1 = files.place w := by
  induction h with
  | done => cases hx
  | blank _ _ _ ih => exact ih hx
  | entry _ _ _ ih =>
    rcases List.mem_cons.mp hx with rfl | hx
    · exact ⟨_, rfl⟩
    · exact ih hx

/-! ## One line -/

/-- The names of a line that was read are made of characters. -/
theorem names_repair {t : Tree} (h : Tree.ofLine line = .ok t) : t.names.map Utf8.repair = t.names := by
  obtain ⟨-, hwritable⟩ := Tree.ofLine_ok h
  refine (List.map_congr_left fun name hname => ?_).trans (List.map_id _)
  obtain ⟨p, hp, hname⟩ := List.mem_flatMap.mp hname
  obtain ⟨c, hc, rfl⟩ := List.mem_map.mp hname
  cases hwords : c.words with
  | nil =>
    rw [Command.name, hwords]
    rfl
  | cons w ws =>
    have hw : w ∈ c.texts := List.mem_append_left _ (hwords ▸ List.mem_cons_self)
    obtain ⟨cs, rfl, -⟩ := hwritable w (List.mem_flatMap.mpr ⟨p, hp, List.mem_flatMap.mpr ⟨c, hc, hw⟩⟩)
    rw [Command.name, hwords, List.headD_cons, Utf8.repair_encode, id]

/-- A line that is not blank is to be recorded with the names of its commands, where the exit hook comes back. -/
theorem attempt_done (hhook : set.hook = .returns) (hline : ¬ Blank line) (s : Shell σ) :
    ∃ result error, (attempt m set line s).1 = .done ((Tree.ofLine line).toOption.map Tree.names) result error := by
  cases htree : Tree.ofLine line with
  | error e =>
    rw [attempt_unreadable m set line htree (not_blank_iff.mp hline)]
    exact ⟨_, _, rfl⟩
  | ok tree =>
    obtain ⟨result, failure, hend⟩ := execute_ofTree_returned m set hhook tree (s.note (.parsed line tree.dump))
    rw [attempt_ofTree m set line htree]
    dsimp only
    rw [hend]
    exact ⟨_, _, rfl⟩

theorem runLine_returned (hhook : set.hook = .returns) (hline : ¬ Blank line) (s : Session σ) :
    ∃ result error, (runLine m set rec line s).1 = .returned result error := by
  obtain ⟨result, error, hdone⟩ := attempt_done (m := m) hhook hline s.shell
  rw [runLine_eq]
  generalize attempt m set line s.shell = r at hdone
  obtain ⟨a, shell⟩ := r
  cases hdone
  exact ⟨result, error, rfl⟩

variable {files : LogFiles σ π} {path : Bytes}

theorem LogFiles.Works.works (h : files.Works rec path) (w : σ) : rec.Works path w := ⟨fun t => h.append t w, h.now w⟩

variable [DecidableEq π] {told : List (π × Audit.Entry)} {s : Session σ}

/-- The files hold these entries, and the logger goes on behind the last of them. -/
structure LogFiles.Holds (files : LogFiles σ π) (path : Bytes) (told : List (π × Audit.Entry)) (s : Session σ) :
    Prop where
  logger : ∃ chain, s.logger = some ⟨path, chain⟩ ∧ chain.seq = told.length.toUInt64
  terminated : ∀ q, Audit.Log.Terminated (files.content q s.shell.world)
  entries : ∀ q, Audit.Log.entries (files.content q s.shell.world) = (told.filter fun x => x.1 = q).map Prod.snd

/-- A line that says an entry becomes the last one of the file to which the path leads. -/
theorem LogFiles.Works.append_line (h : files.Works rec path) {w : σ}
    (hterminated : ∀ q, Audit.Log.Terminated (files.content q w)) {t : Bytes} {e : Audit.Entry}
    (hline : 0x0A ∉ t ∧ t ≠ []) (hdecode : Audit.Entry.decode t = some e) (q : π) :
    let v := (rec.store.append path (t ++ [0x0A]) w).2
    Audit.Log.Terminated (files.content q v) ∧
      Audit.Log.entries (files.content q v) =
        Audit.Log.entries (files.content q w) ++ if files.place w = q then [e] else [] := by
  intro v
  by_cases hq : files.place w = q
  · subst hq
    have hadded : files.content (files.place w) v = files.content (files.place w) w ++ (t ++ [0x0A]) := h.added _ _
    rw [hadded, if_pos rfl]
    exact ⟨.inr ⟨_, (List.append_assoc _ _ _).symm⟩,
      Audit.Log.entries_append_line (hterminated _) hline hdecode⟩
  · have hsame : files.content q v = files.content q w := h.others _ _ q (Ne.symm hq)
    rw [hsame, if_neg hq, List.append_nil]
    exact ⟨hterminated q, rfl⟩

/-- A record becomes the next entry, in the file to which the path leads. -/
theorem LogFiles.Holds.record (hworks : files.Works rec path) (h : files.Holds path told s) {r : Audit.Record}
    (hcode : Word.holds r.exitCode = true) :
    ∃ (call : Audit.Call) (e : Audit.Entry), call.record = r ∧ call.Recorded (told.length + 1) e ∧
      files.Holds path (told ++ [(files.place (s.record rec r).shell.world, e)]) (s.record rec r) := by
  obtain ⟨chain, hlogger, hseq⟩ := h.logger
  let call : Audit.Call := ⟨r, rec.now s.shell.world, hcode, hworks.nanos _⟩
  let linked := rec.entry ⟨path, chain⟩ r s.shell.world
  have hfits : linked.Fits := Audit.Session.fits_link rec.hash chain call
  have hrecorded : call.Recorded (told.length + 1) linked.repair :=
    Audit.Session.recorded_link rec.hash chain call hseq
  obtain ⟨t, ht⟩ : ∃ t, linked.encode = some t := (hworks.works s.shell.world).encodes r
  have hfiles := hworks.append_line h.terminated (Audit.Entry.encode_line hfits.duration ht)
    (Audit.Entry.decode_encode hfits ht)
  have hplace := hworks.place (t ++ [0x0A]) s.shell.world
  have hrecord := Session.record_eq hlogger ht (Prod.ext (hworks.append (t ++ [0x0A]) s.shell.world) rfl)
  refine ⟨call, linked.repair, rfl, hrecorded, ?_⟩
  rw [hrecord]
  refine ⟨⟨_, rfl, ?_⟩, fun q => (hfiles q).1, fun q => (hfiles q).2.trans ?_⟩
  · have hnext : linked.seq = (told.length + 1).toUInt64 := hrecorded.seq
    rw [List.length_append, List.length_singleton, ← hnext]
    rfl
  · rw [h.entries q, List.filter_append, List.map_append, hplace]
    by_cases hq : files.place s.shell.world = q <;> simp [hq]

/-- Whether a word of 64 bits holds the status of the line. -/
def RunEnd.fits : RunEnd → Bool
  | .returned result error => Word.holds (lineStatus result error)
  | _ => true

/-- A line that is not blank becomes the next entry. -/
theorem LogFiles.Holds.step (hhook : set.hook = .returns) (hkeeps : m.Keeps fun w q => files.content q w)
    (hworks : files.Works rec path) (h : files.Holds path told s) (hline : ¬ Blank line)
    (hcode : (runLine m set rec line s).1.fits = true) :
    ∃ e, Tells m (told.length + 1) line s (runLine m set rec line s) e ∧
      files.Holds path (told ++ [(files.place (runLine m set rec line s).2.shell.world, e)])
        (runLine m set rec line s).2 := by
  obtain ⟨result, error, hdone⟩ := attempt_done (m := m) hhook hline s.shell
  have hcontent := attempt_keeps hkeeps set line s.shell
  rw [runLine_eq] at hcode ⊢
  generalize attempt m set line s.shell = r at hdone hcontent hcode ⊢
  obtain ⟨a, shell⟩ := r
  cases hdone
  have hshell : files.Holds path told { s with shell } := by
    have hsame (q : π) : files.content q shell.world = files.content q s.shell.world := congrFun hcontent q
    refine ⟨h.logger, fun q => ?_, fun q => ?_⟩
    · rw [hsame q]
      exact h.terminated q
    · rw [hsame q]
      exact h.entries q
  obtain ⟨call, e, hcall, hrecorded, hholds⟩ := hshell.record hworks
    (r := lineRecord line ((Tree.ofLine line).toOption.map Tree.names) result error
      (elapsed (rec.now s.shell.world) (rec.now shell.world)) (m.cwd s.shell.world)) hcode
  refine ⟨e, ⟨hrecorded.seq, ?_, ?_, ⟨result, error, rfl, ?_, ?_, ?_⟩, ?_⟩, hholds⟩
  · rw [hrecorded.cwd, hcall]
    rfl
  · rw [hrecorded.commands, hcall]
    change ((Tree.ofLine line).toOption.map Tree.names).map (·.map Utf8.repair) = _
    cases htree : Tree.ofLine line with
    | error e => rfl
    | ok tree => exact congrArg some (names_repair htree)
  · rw [hrecorded.outcome, hcall]
    change Utf8.repair (lineOutcome result error).name = _
    cases lineOutcome result error <;> exact Utf8.repair_text _
  · rw [hrecorded.exitCode, hcall]
    rfl
  · rw [hrecorded.error, hcall]
    rfl
  · rw [hrecorded.line, hcall]
    rfl

/-! ## A session -/

/-- The entries of a run are added behind those that were there before it. -/
theorem LogFiles.Holds.run (hhook : set.hook = .returns) (hkeeps : m.Keeps fun w q => files.content q w)
    (hworks : files.Works rec path) (lines : List Bytes) (h : files.Holds path told s)
    (hcodes : ∀ run ∈ (runLines m set rec lines s).1, run.fits = true) :
    ∃ new, Transcribed m set rec files told.length lines s new (runLines m set rec lines s).2 ∧
      files.Holds path (told ++ new) (runLines m set rec lines s).2 := by
  induction lines generalizing told s with
  | nil =>
    refine ⟨[], .done, ?_⟩
    rw [List.append_nil]
    exact h
  | cons line lines ih =>
    by_cases hline : Blank line
    · have hrun : runLine m set rec line s = (.returned none none, s) := runLine_blank hline s
      have hcons := runLines_cons (congrArg Prod.fst hrun) lines
      rw [hrun] at hcons
      rw [hcons] at hcodes ⊢
      obtain ⟨new, hnew, hholds⟩ := ih h fun run hmem => hcodes run (List.mem_cons_of_mem _ hmem)
      exact ⟨new, .blank hline hrun hnew, hholds⟩
    · obtain ⟨result, error, hend⟩ : ∃ result error, (runLine m set rec line s).1 = .returned result error :=
        runLine_returned hhook hline s
      rw [runLines_cons hend] at hcodes ⊢
      have hcode : (runLine m set rec line s).1.fits = true := by
        rw [hend]
        exact hcodes _ List.mem_cons_self
      obtain ⟨e, htells, hstep⟩ := h.step hhook hkeeps hworks hline hcode
      obtain ⟨new, hnew, hholds⟩ := ih hstep fun run hmem => hcodes run (List.mem_cons_of_mem _ hmem)
      rw [List.length_append, List.length_singleton] at hnew
      rw [List.append_assoc, List.singleton_append] at hholds
      exact ⟨_, .entry hline htells hnew, hholds⟩

/-- A log that can be written is a transcript of the session. Let the path of a fresh log lead to files that no command
touches, whichever of them it leads to when. Where the exit hook comes back, the lines that are not blank have their
entries one to one and in order, and a blank line does nothing. Each entry is in the file to which the path led when
the line was over. So a file holds the whole transcript exactly if the path has led to it after each of these lines,
as it does where the path leads to one file from everywhere. Whoever reads the log at the path in the end sees the
entries of the file that is there. A status is a number that a word of 64 bits holds. -/
theorem session_transcribed (hhook : set.hook = .returns) (hkeeps : m.Keeps fun w q => files.content q w)
    (hworks : files.Works rec path) (hlogger : s.logger = some ⟨path, .start rec.hash⟩)
    (hfresh : ∀ q, files.content q s.shell.world = []) (lines : List Bytes)
    (hcodes : ∀ run ∈ (runLines m set rec lines s).1, run.fits = true) :
    let last := (runLines m set rec lines s).2
    let kept (told : List (π × Audit.Entry)) (q : π) := (told.filter fun x => x.1 = q).map Prod.snd
    ∃ told, Transcribed m set rec files 0 lines s told last ∧
      (∀ q, Audit.Log.entries (files.content q last.shell.world) = kept told q) ∧
      (∀ q, Audit.Log.entries (files.content q last.shell.world) = told.map Prod.snd ↔ ∀ x ∈ told, x.1 = q) ∧
      (∀ p, (∀ w, files.place w = p) → Audit.Log.entries (files.content p last.shell.world) = told.map Prod.snd) ∧
      ((∃ x ∈ told, x.1 = files.place last.shell.world) →
        Audit.Log.tailAt rec.store path 0 last.shell.world = .ok (kept told (files.place last.shell.world))) := by
  intro last kept
  have hstart : files.Holds path [] s := by
    refine ⟨⟨_, hlogger, rfl⟩, fun q => ?_, fun q => ?_⟩
    · rw [hfresh q]
      exact .inl rfl
    · rw [hfresh q]
      rfl
  obtain ⟨told, htold, hholds⟩ := hstart.run hhook hkeeps hworks lines hcodes
  rw [List.nil_append] at hholds
  have hwhole (q : π) : Audit.Log.entries (files.content q last.shell.world) = told.map Prod.snd ↔ ∀ x ∈ told, x.1 = q := by
    rw [hholds.entries q]
    constructor
    · intro hall
      have hlength := congrArg List.length hall
      rw [List.length_map, List.length_map, List.length_filter_eq_length_iff] at hlength
      simpa using hlength
    · intro hall
      rw [List.filter_eq_self.mpr (by simpa using hall)]
  refine ⟨told, htold, hholds.entries, hwhole, fun p hp => ?_, fun ⟨x, hx, hplace⟩ => ?_⟩
  · refine (hwhole p).mpr fun x hx => ?_
    obtain ⟨w, hw⟩ := htold.place hx
    rw [hw, hp]
  · have hmem : x.2 ∈ Audit.Log.entries (files.content (files.place last.shell.world) last.shell.world) := by
      rw [hholds.entries]
      exact List.mem_map_of_mem (List.mem_filter.mpr ⟨hx, decide_eq_true hplace⟩)
    have hcontent : files.content (files.place last.shell.world) last.shell.world ≠ [] := by
      intro hempty
      rw [hempty] at hmem
      cases hmem
    rw [Audit.Log.tailAt, hworks.read _ hcontent]
    exact congrArg Except.ok (hholds.entries _)

/-! ## Paths from the root and from the working directory -/

/-- A working directory, and what was added to files, each with its name. -/
abbrev Folders := Bytes × List (Bytes × Bytes)

/-- The content of a file: all that was added to it. -/
def Folders.content (name : Bytes) (w : Folders) : Bytes := (w.2.filter fun x => x.1 = name).flatMap Prod.snd

/-- The name of the file at a path, which begins at the root or in the working directory. -/
def Folders.name (path : Bytes) (w : Folders) : Bytes :=
  if path.head? = some 0x2F then path else w.1 ++ text "/" ++ path

theorem Folders.name_of_root {path : Bytes} (h : path.head? = some 0x2F) (w : Folders) : w.name path = path :=
  if_pos h

/-- The files of a log at a path. -/
def LogFiles.named (path : Bytes) : LogFiles Folders Bytes := ⟨Folders.name path, Folders.content⟩

/-- A recorder of files with names, with a clock that stands still. -/
def Recorder.named : Recorder Folders where
  store := {
    makeParent := fun _ w => (none, w)
    read := fun path w => .ok (w.content (w.name path))
    append := fun path t w => (none, w.1, w.2 ++ [(w.name path, t)]) }
  hash := fun _ => []
  now _ := ⟨0, 0, 0⟩

theorem LogFiles.named_works (path : Bytes) : (LogFiles.named path).Works .named path where
  append _ _ := rfl
  added t w := by simp [named, Recorder.named, Folders.content, List.filter_append]
  others t w q hq := by
    have hname : ¬ w.name path = q := fun hname => hq hname.symm
    simp [named, Recorder.named, Folders.content, List.filter_append, hname]
  place _ _ := rfl
  read _ _ := rfl
  nanos _ := Nat.zero_lt_succ _
  now _ := (by decide +kernel : (⟨0, 0, 0⟩ : Instant).render ≠ none)

/-- The machine that changes its working directory and nothing else. -/
abbrev Machine.touring : Machine Folders := Machine.walking.beside (List (Bytes × Bytes))

theorem Machine.touring_keeps : Machine.touring.Keeps fun w q => Folders.content q w where
  openRead _ _ _ := rfl
  openWrite _ _ _ _ := rfl
  closeFile _ _ := rfl
  makePipe _ _ := rfl
  closeReader _ _ := rfl
  closeWriter _ _ := rfl
  spawn _ _ _ := rfl
  kill _ _ := rfl
  reap _ _ := rfl
  wake _ _ _ _ := rfl
  chdir _ _ := rfl
  cwd _ := rfl
  meanwhile _ := rfl

/-- A session at the start of a log at a path. -/
def Session.named (path : Bytes) : Session Folders :=
  ⟨{ world := (text "/home", []) }, some ⟨path, .start Recorder.named.hash⟩⟩

/-- At a path from the root the log is a transcript through a usage failure, a line that is not read, a blank line, a
change of directory and an exit. -/
theorem session_transcribed_rooted :
    let path := text "/var/log"
    let lines := [text "cd x y; cd /tmp", text "echo (", text " \t", text "exit 3"]
    ∃ told, Transcribed .touring {} .named (.named path) 0 lines (.named path) told
        (runLines .touring {} .named lines (.named path)).2 ∧
      told.length = 3 ∧ Audit.Log.entries ((LogFiles.named path).content path
        (runLines .touring {} .named lines (.named path)).2.shell.world) = told.map Prod.snd := by
  intro path lines
  have hhook : ({} : Settings).hook = .returns := rfl
  have hlogger : (Session.named path).logger = some ⟨path, .start Recorder.named.hash⟩ := rfl
  have hfresh : ∀ q, (LogFiles.named path).content q (Session.named path).shell.world = [] := fun _ => rfl
  have hcodes : (runLines .touring {} .named lines (.named path)).1.all RunEnd.fits = true := by decide +kernel
  obtain ⟨told, htold, -, -, hwhole, -⟩ :=
    session_transcribed hhook Machine.touring_keeps (LogFiles.named_works path) hlogger hfresh lines (List.all_eq_true.mp hcodes)
  have hroot : path.head? = some 0x2F := by decide +kernel
  have hentries := hwhole path (Folders.name_of_root hroot)
  have hlength : (Audit.Log.entries ((LogFiles.named path).content path
      (runLines .touring {} .named lines (.named path)).2.shell.world)).length = 3 := by decide +kernel
  refine ⟨told, htold, ?_, hentries⟩
  rw [hentries, List.length_map] at hlength
  exact hlength

/-- A change of directory tears the log at a relative path: its own entry and those of later lines are in another file,
which does not begin with the first entry and is not accepted. -/
theorem log_torn :
    let lines := [text "echo a", text "cd /tmp", text "echo b"]
    let last := (runLines .touring {} .named lines (.named (text "log"))).2
    let seen (name : String) := (Audit.Log.entries (Folders.content (text name) last.shell.world)).map fun e => (e.seq, e.line)
    seen "/home/log" = [(1, text "echo a")] ∧ seen "/tmp/log" = [(2, text "cd /tmp"), (3, text "echo b")] ∧
      (Audit.Log.verify Recorder.named.hash (Folders.content (text "/tmp/log") last.shell.world)).isOk = false := by
  decide +kernel

end AuditShell
