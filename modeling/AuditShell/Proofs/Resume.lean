import AuditShell.Proofs.Log
/-!
# Going on with a log

`Session.resumable_iff`: a writer can be made for every accepted log, and the log can be gone on with
if and only if it ends with a complete line. Checking a log does not ask for the newline after the last
line, but an entry is appended as if it were there: without it the new entry becomes part of the last
line, and neither entry can be read any more (`Session.resume_joins_lines`).

Where the last line is complete, the invariant `Session.Sound` holds at the start, and so after every
run. Where it is not, a call adds no line, so the log cannot have one entry more.
-/

namespace AuditShell.Audit

/-! ## Logs with an open last line -/

namespace Log

/-- A log whose last line is not complete consists of complete lines and this one. -/
theorem open_cases {content : Bytes} (h : ¬ Terminated content) :
    ∃ a l, content = a ++ l ∧ Terminated a ∧ 0x0A ∉ l ∧ l ≠ [] := by
  induction content with
  | nil => exact absurd (.inl rfl) h
  | cons b rest ih =>
    by_cases hrest : Terminated rest
    · rcases hrest with rfl | ⟨c, rfl⟩
      · refine ⟨[], [b], rfl, .inl rfl, ?_, by simp⟩
        rw [List.mem_singleton]
        rintro rfl
        exact h (.inr ⟨[], rfl⟩)
      · exact absurd (.inr ⟨b :: c, rfl⟩) h
    · obtain ⟨a, l, rfl, ha, hl, hne⟩ := ih hrest
      rcases ha with rfl | ⟨c, rfl⟩
      · by_cases hb : b = 0x0A
        · exact ⟨[b], l, rfl, .inr ⟨[], by rw [hb]; rfl⟩, hl, hne⟩
        · refine ⟨[], b :: l, rfl, .inl rfl, ?_, by simp⟩
          simp [hl, Ne.symm hb]
      · exact ⟨b :: (c ++ [0x0A]), l, rfl, .inr ⟨b :: c, rfl⟩, hl, hne⟩

/-- Appending a line to a log whose last line is not complete adds no line. -/
theorem length_records_append_line {content line : Bytes} (h : ¬ Terminated content) (hl : 0x0A ∉ line) :
    (records (content ++ (line ++ [0x0A]))).length = (records content).length := by
  obtain ⟨a, l, rfl, ha, hnew, hne⟩ := open_cases h
  have hjoined : 0x0A ∉ l ++ line ∧ l ++ line ≠ [] := by simp [hnew, hl, hne]
  rw [List.append_assoc, ← List.append_assoc l, records_append_line ha hjoined, records_append ha,
    records_of_line ⟨hnew, hne⟩, List.length_append, List.length_append]
  rfl

variable {hash : Hash} {path content : Bytes}

theorem verifyAt_eq_none :
    verifyAt MemoryLog.store hash path ⟨some content, {}⟩ = none ↔ ∃ c, verify hash content = .ok c := by
  simp only [verifyAt, MemoryLog.store]
  cases h : verify hash content with
  | ok c => simp [h]
  | error e => simp [h]

theorem tailAt_zero : tailAt MemoryLog.store path 0 ⟨some content, {}⟩ = .ok (entries content) := by
  simp [tailAt, MemoryLog.store, tail]

theorem length_entries_of_verify {c : Chain} (h : verify hash content = .ok c) :
    (entries content).length = (records content).length := by
  have hlength := congrArg List.length (verify_eq_ok.1 h).1
  rw [List.length_map, List.length_map] at hlength
  exact hlength.symm

end Log

/-! ## Resumed runs -/

namespace Session

/-- The session after a list of steps that starts with a log in place and without a writer. -/
def resume (hash : Hash) (path content : Bytes) (steps : List Step) : Session :=
  steps.foldl (step hash path) { content := some content }

/-- A log that can be gone on with. After every run of its writers it is accepted, and its entries are
the old ones and one for each call that succeeded, which go on from the last old one. -/
def Resumable (hash : Hash) (path content : Bytes) : Prop :=
  ∀ steps, ∃ content' new,
    (resume hash path content steps).content = some content' ∧
    Log.verifyAt MemoryLog.store hash path ⟨some content', {}⟩ = none ∧
    Log.tailAt MemoryLog.store path 0 ⟨some content', {}⟩ = .ok (Log.entries content ++ new) ∧
    Continued hash ((Chain.start hash).after (Log.entries content)) (resume hash path content steps).done new

variable {hash : Hash} {path content : Bytes}

/-- The invariant holds at the start of a run on an accepted log with complete lines. -/
theorem sound_resume (hl : hash.Legible) {c : Chain} (h : Log.verify hash content = .ok c)
    (ht : Log.Terminated content) :
    Sound hash ((Chain.start hash).after (Log.entries content)) (Log.entries content) { content := some content } c := by
  obtain ⟨-, hfollowed, rfl⟩ := Log.verify_eq_ok.1 h
  refine ⟨h, ht, hfollowed.legible hl, fun l hw => ?_, [], (List.append_nil _).symm, ⟨rfl, trivial, ?_⟩, rfl⟩
  · cases hw
  · intro i call e hcall
    simp at hcall

theorem new_memory (hash : Hash) (path : Bytes) (m : MemoryLog) : (Logger.new MemoryLog.store hash path m).2 = m := by
  unfold Logger.new MemoryLog.store
  dsimp only
  split
  next h => exact (Prod.mk.inj h).2.symm
  next h =>
    rw [← (Prod.mk.inj h).2]
    split
    · rfl
    · split <;> rfl

theorem log_isSome (hash : Hash) (l : Logger) (r : Record) (now : Instant) {m : MemoryLog} (hm : m.content.isSome) :
    (l.log MemoryLog.store hash r now m).2.content.isSome := by
  unfold Logger.log
  dsimp only
  split
  · exact hm
  · cases hopening : m.faults.opening <;> cases hwriting : m.faults.writing <;>
      simp [MemoryLog.store, hopening, hwriting, hm]

/-- A file that is there stays there. -/
theorem step_isSome {s : Session} (hs : s.content.isSome) (a : Step) : (s.step hash path a).content.isSome := by
  cases a with
  | new faults =>
    obtain ⟨result, m, hr⟩ : ∃ result m, Logger.new MemoryLog.store hash path ⟨s.content, faults⟩ = (result, m) :=
      ⟨_, _, rfl⟩
    have hm : m = ⟨s.content, faults⟩ := by rw [← new_memory hash path ⟨s.content, faults⟩, hr]
    cases result <;> simpa only [step, hr, hm] using hs
  | drop => exact hs
  | log call faults =>
    cases hw : s.writer with
    | none => simpa only [step, hw] using hs
    | some l =>
      obtain ⟨result, m, hr⟩ : ∃ result m,
          l.log MemoryLog.store hash call.record call.now ⟨s.content, faults⟩ = (result, m) := ⟨_, _, rfl⟩
      have hm : m.content.isSome := by
        have h : (l.log MemoryLog.store hash call.record call.now ⟨s.content, faults⟩).2.content.isSome :=
          log_isSome hash l call.record call.now hs
        rwa [hr] at h
      cases result <;> simpa only [step, hw, hr] using hm

theorem steps_isSome {s : Session} (hs : s.content.isSome) (steps : List Step) :
    (steps.foldl (step hash path) s).content.isSome := by
  induction steps generalizing s with
  | nil => exact hs
  | cons a steps ih => exact ih (step_isSome hs a)

/-- An accepted log with complete lines can be gone on with. -/
theorem resumable_of_terminated (hl : hash.Legible) {c : Chain} (h : Log.verify hash content = .ok c)
    (ht : Log.Terminated content) : Resumable hash path content := by
  intro steps
  obtain ⟨c', hsound⟩ : ∃ c', (resume hash path content steps).Sound hash _ (Log.entries content) c' :=
    (sound_resume hl h ht).steps hl path steps
  obtain ⟨content', hcontent⟩ : ∃ content', (resume hash path content steps).content = some content' :=
    Option.isSome_iff_exists.1 (steps_isSome rfl steps)
  obtain ⟨new, hentries, hnew, -⟩ := hsound.continued
  have hv := hsound.verified
  rw [hcontent, Option.getD_some] at hv hentries
  refine ⟨content', new, hcontent, Log.verifyAt_eq_none.2 ⟨c', hv⟩, ?_, hnew⟩
  rw [Log.tailAt_zero, hentries]

/-- Where no request fails, a call appends the linked entry. -/
theorem log_ok {c : Chain} {r : Record} {now : Instant} {t : Bytes}
    (h : (c.link hash (.ofRecord r now)).encode = some t) :
    Logger.log MemoryLog.store hash ⟨path, c⟩ r now ⟨some content, {}⟩ =
      (.ok ⟨path, .advance (c.link hash (.ofRecord r now))⟩, ⟨some (content ++ (t ++ [0x0A])), {}⟩) := by
  simp [Logger.log, MemoryLog.store, h]

/-- A call on a log whose last line is not complete leaves it with as many lines as before. -/
theorem length_entries_resume (path : Bytes) {c : Chain} (h : Log.verify hash content = .ok c) (ht : ¬ Log.Terminated content)
    {call : Call} {t : Bytes} (htext : (c.link hash (.ofRecord call.record call.now)).encode = some t) :
    resume hash path content [.new {}, .log call {}] =
        ⟨some (content ++ (t ++ [0x0A])), some ⟨path, .advance (c.link hash (.ofRecord call.record call.now))⟩, [call]⟩ ∧
      (Log.entries (content ++ (t ++ [0x0A]))).length ≤ (Log.entries content).length := by
  have hwriter : Logger.new MemoryLog.store hash path ⟨some content, {}⟩ = (.ok ⟨path, c⟩, ⟨some content, {}⟩) :=
    new_spec h path {}
  constructor
  · simp only [resume, List.foldl_cons, List.foldl_nil, step, hwriter, log_ok htext]
    rfl
  · have hline := (Entry.encode_line (fits_link hash c call).duration htext).1
    calc (Log.entries (content ++ (t ++ [0x0A]))).length
        ≤ (Log.records (content ++ (t ++ [0x0A]))).length := List.length_filterMap_le ..
      _ = (Log.records content).length := Log.length_records_append_line ht hline
      _ = (Log.entries content).length := (Log.length_entries_of_verify h).symm

/-- A call that can be logged. -/
def probe : Call where
  record := ⟨[], none, [], 0, none, 0, []⟩
  now := ⟨0, 0, 0⟩
  exitCode_holds := by decide
  nanos_lt := by decide

theorem encode_probe (hash : Hash) (c : Chain) :
    ∃ t, (c.link hash (.ofRecord probe.record probe.now)).encode = some t := by
  have htime : (c.link hash (.ofRecord probe.record probe.now)).time = ⟨0, 0, 0⟩ := rfl
  have hrender : (⟨0, 0, 0⟩ : Instant).render ≠ none := by decide +kernel
  apply Option.ne_none_iff_exists'.1
  rwa [Ne, Entry.encode_eq_none, htime]

/-- A log that can be gone on with ends with a complete line. -/
theorem terminated_of_resumable {c : Chain} (h : Log.verify hash content = .ok c)
    (hr : Resumable hash path content) : Log.Terminated content := by
  by_contra ht
  obtain ⟨t, htext⟩ := encode_probe hash c
  obtain ⟨hresume, hle⟩ := length_entries_resume path h ht htext
  obtain ⟨content', new, hcontent, -, htail, hnew⟩ := hr [.new {}, .log probe {}]
  rw [hresume] at hcontent hnew
  cases hcontent
  rw [Log.tailAt_zero, Except.ok.injEq] at htail
  rw [htail, List.length_append, hnew.length] at hle
  simp at hle

/-- A writer can be made for every accepted log, and the log can be gone on with if and only if its last
line is complete. -/
theorem resumable_iff {digest : Bytes → Bytes} {path content : Bytes}
    (h : Log.verifyAt MemoryLog.store (.hexadecimal digest) path ⟨some content, {}⟩ = none) :
    Logger.new MemoryLog.store (.hexadecimal digest) path ⟨some content, {}⟩ =
        (.ok ⟨path, (Chain.start (.hexadecimal digest)).after (Log.entries content)⟩, ⟨some content, {}⟩) ∧
      (Resumable (.hexadecimal digest) path content ↔ Log.Terminated content) := by
  obtain ⟨c, hc⟩ := Log.verifyAt_eq_none.1 h
  refine ⟨?_, terminated_of_resumable hc, resumable_of_terminated (Hash.hexadecimal_legible digest) hc⟩
  rw [← (Log.verify_eq_ok.1 hc).2.2]
  exact new_spec hc path {}

-- empty lines, other blanks and another order of the members do not matter
theorem resumable_respelled :
    let content := text "\n \x7b\"hash\":\"7b\", \"prev_hash\":\"63\", \"seq\":1\x7d\r\n\n"
    let hash := Hash.hexadecimal (List.take 1)
    Log.verifyAt MemoryLog.store hash [] ⟨some content, {}⟩ = none ∧ Log.Terminated content ∧
      Resumable hash [] content := by
  intro content hash
  have h : Log.verifyAt MemoryLog.store hash [] ⟨some content, {}⟩ = none := by decide +kernel
  have ht : Log.Terminated content := .inr ⟨content.dropLast, by decide +kernel⟩
  exact ⟨h, ht, (resumable_iff h).2.2 ht⟩

/-- A log of one entry without the newline behind it. -/
def openLog (hash : Hash) : Bytes :=
  (((Chain.start hash).link hash (.ofRecord probe.record probe.now)).encode).getD []

theorem verify_first (hl : hash.Legible) {call : Call} {t : Bytes}
    (ht : ((Chain.start hash).link hash (.ofRecord call.record call.now)).encode = some t) :
    Log.verify hash t = .ok (.advance ((Chain.start hash).link hash (.ofRecord call.record call.now))) := by
  have hfits := fits_link hash (.start hash) call
  have hstart : Log.verifyFrom hash 1 (.start hash) [] = .ok (.start hash) := rfl
  have hcheck := Chain.check_repair_link hl (c := .start hash) (hl _) (.ofRecord call.record call.now)
  rw [Log.verify, Log.records_of_line (Entry.encode_line hfits.duration ht), ← Chain.advance_repair_link hl]
  exact Log.verifyFrom_concat hstart (Entry.decode_encode hfits ht) hcheck

theorem joined_openLog (hl : hash.Legible) (path : Bytes) :
    Log.verifyAt MemoryLog.store hash path ⟨some (openLog hash), {}⟩ = none ∧
      (resume hash path (openLog hash) [.new {}, .log probe {}]).done = [probe] ∧
      ∃ content, (resume hash path (openLog hash) [.new {}, .log probe {}]).content = some content ∧
        Log.verifyAt MemoryLog.store hash path ⟨some content, {}⟩ = some (.chain ⟨1, none⟩) ∧
        Log.tailAt MemoryLog.store path 0 ⟨some content, {}⟩ = .ok [] := by
  obtain ⟨t, ht⟩ := encode_probe hash (.start hash)
  have hlog : openLog hash = t := by rw [openLog, ht, Option.getD_some]
  have hduration := (fits_link hash (.start hash) probe).duration
  obtain ⟨hnew, hne⟩ := Entry.encode_line hduration ht
  have hopen : ¬ Log.Terminated t := by
    rintro (rfl | ⟨c, rfl⟩)
    · exact hne rfl
    · exact hnew (by simp)
  have hverify := verify_first hl ht
  generalize Chain.advance ((Chain.start hash).link hash (.ofRecord probe.record probe.now)) = c at hverify
  obtain ⟨u, hu⟩ := encode_probe hash c
  have hduration' := (fits_link hash c probe).duration
  -- both entries stand on one line
  have hrecords : Log.records (t ++ (u ++ [0x0A])) = [t ++ u] := by
    have hjoined : 0x0A ∉ t ++ u ∧ t ++ u ≠ [] := by simp [hnew, hne, (Entry.encode_line hduration' hu).1]
    rw [← List.append_assoc, Log.records_append_newline, Log.records_of_line hjoined]
    rfl
  have hnone := Entry.decode_encode_append hduration hduration' ht hu
  rw [hlog, (length_entries_resume path hverify hopen hu).1]
  refine ⟨Log.verifyAt_eq_none.2 ⟨c, hverify⟩, rfl, _, rfl, ?_, ?_⟩
  · simp [Log.verifyAt, MemoryLog.store, Log.verify, hrecords, Log.verifyFrom, hnone]
  · rw [Log.tailAt_zero, Log.entries, hrecords, List.filterMap_cons_none hnone]
    rfl

/-- The log of one entry without a newline is accepted, and a call on it succeeds. Then the log is not
accepted any more, and nothing in it can be read. -/
theorem resume_joins_lines :
    Log.verifyAt MemoryLog.store sha256 [] ⟨some (openLog sha256), {}⟩ = none ∧
      (resume sha256 [] (openLog sha256) [.new {}, .log probe {}]).done = [probe] ∧
      ∃ content, (resume sha256 [] (openLog sha256) [.new {}, .log probe {}]).content = some content ∧
        Log.verifyAt MemoryLog.store sha256 [] ⟨some content, {}⟩ = some (.chain ⟨1, none⟩) ∧
        Log.tailAt MemoryLog.store [] 0 ⟨some content, {}⟩ = .ok [] := by
  obtain ⟨digest, h⟩ := sha256_hexadecimal
  rw [h]
  exact joined_openLog (Hash.hexadecimal_legible digest) []

end Session

end AuditShell.Audit
