import AuditShell.Audit.Memory
import AuditShell.Proofs.Chain
import AuditShell.Proofs.Entry
/-!
# The log stays intact

`Session.run_intact` is about every run of a log file that starts without the file: writers are made,
given up and called in any order, one at a time, and each request to the file may fail. After every
step the log is accepted, its entries are those of the calls that succeeded, and a call that failed has changed
neither the file nor the writer.

The invariant is `Session.Sound`: checking the log ends at the position of the writer, and the
entries of the calls go on from those that were there before. It survives a call because a linked
entry that was written and read again still fits (`Chain.check_repair_link`), and a restart because
checking a log and resuming it end at the same position (`Log.resume_of_verify`).
-/

namespace AuditShell.Audit

/-! ## Digests -/

/-- A digest whose text is made of characters. -/
def Hash.Legible (hash : Hash) : Prop := ∀ t, Utf8.repair (hash t) = hash t

/-- The digest function that writes each byte of a digest as two hexadecimal digits. -/
def Hash.hexadecimal (digest : Bytes → Bytes) : Hash :=
  fun t => Utf8.encode ((digest t).flatMap fun b => Quoted.hex 2 b.toNat)

theorem Hash.hexadecimal_legible (digest : Bytes → Bytes) : (Hash.hexadecimal digest).Legible :=
  fun _ => Utf8.repair_encode _

theorem hex_word (n : Nat) :
    Quoted.hex 8 n = [(n / 2 ^ 24).toUInt8, (n / 2 ^ 16).toUInt8, (n / 2 ^ 8).toUInt8, n.toUInt8].flatMap fun b =>
      Quoted.hex 2 b.toNat := by
  have hbyte (k : Nat) : k.toUInt8.toNat = k % 256 := rfl
  simp only [Quoted.hex, Nat.pow_eq, List.flatMap_cons, List.flatMap_nil, List.append_nil, List.cons_append,
    List.nil_append, hbyte, List.cons.injEq, and_true]
  refine ⟨?_, ?_, ?_, ?_, ?_, ?_, ?_, ?_⟩ <;> exact congrArg _ (by omega)

/-- The digest function of the program is one of those. -/
theorem sha256_hexadecimal : ∃ digest, sha256 = Hash.hexadecimal digest := by
  let words (s : Sha256.State) : List UInt32 := [s.a, s.b, s.c, s.d, s.e, s.f, s.g, s.h]
  let bytes (w : UInt32) : Bytes :=
    [(w.toNat / 2 ^ 24).toUInt8, (w.toNat / 2 ^ 16).toUInt8, (w.toNat / 2 ^ 8).toUInt8, w.toNat.toUInt8]
  let state (m : Bytes) : Sha256.State :=
    Sha256.absorb (Sha256.words (Sha256.pad m)).length .start (Sha256.words (Sha256.pad m))
  refine ⟨fun m => (words (state m)).flatMap bytes, funext fun m => ?_⟩
  simp only [sha256, Hash.hexadecimal, List.flatMap_assoc, hex_word]
  rfl

theorem digested_repair (e : Entry) : e.repair.digested = e.digested := by
  have h : { e.repair with hash := [] } = ({ e with hash := [] } : Entry).repair := rfl
  rw [Entry.digested, Entry.digested, h, Entry.encode_repair]

/-! ## The lines of a log -/

namespace Log

theorem records_append_newline (a b : Bytes) : records (a ++ 0x0A :: b) = records a ++ records b := by
  rw [records, Bytes.splitOn_append_sep, List.filter_append]
  rfl

/-- A log that is empty or whose last line is complete. -/
def Terminated (content : Bytes) : Prop := content = [] ∨ ∃ c, content = c ++ [0x0A]

theorem records_append {content : Bytes} (h : Terminated content) (b : Bytes) :
    records (content ++ b) = records content ++ records b := by
  rcases h with rfl | ⟨c, rfl⟩
  · rfl
  · rw [List.append_assoc, List.singleton_append, records_append_newline, records_append_newline]
    simp [records, Bytes.splitOn]

theorem records_of_line {line : Bytes} (h : 0x0A ∉ line ∧ line ≠ []) : records line = [line] := by
  rw [records, Bytes.splitOn_of_not_mem h.1]
  simp [h.2]

theorem records_append_line {content line : Bytes} (h : Terminated content) (hl : 0x0A ∉ line ∧ line ≠ []) :
    records (content ++ (line ++ [0x0A])) = records content ++ [line] := by
  rw [records_append h, records_append_newline, records_of_line hl]
  rfl

theorem entries_append_line {content line : Bytes} {e : Entry} (h : Terminated content) (hl : 0x0A ∉ line ∧ line ≠ [])
    (hd : Entry.decode line = some e) : entries (content ++ (line ++ [0x0A])) = entries content ++ [e] := by
  rw [entries, records_append_line h hl, List.filterMap_append, List.filterMap_cons_some hd]
  rfl

variable {hash : Hash}

theorem verifyFrom_append (n : Nat) (c : Chain) (as bs : List Bytes) :
    verifyFrom hash n c (as ++ bs) =
      match verifyFrom hash n c as with
      | .ok c' => verifyFrom hash (n + as.length) c' bs
      | .error e => .error e := by
  induction as generalizing n c with
  | nil => rfl
  | cons l as ih =>
    simp only [List.cons_append, verifyFrom]
    cases Entry.decode l with
    | none => rfl
    | some e =>
      cases h : c.check hash e with
      | some m => simp [h]
      | none => simp only [h, ih, List.length_cons, Nat.add_assoc, Nat.add_comm 1]

theorem verifyFrom_concat {n : Nat} {c c' : Chain} {ls : List Bytes} {l : Bytes} {e : Entry}
    (h : verifyFrom hash n c ls = .ok c') (hd : Entry.decode l = some e) (hc : c'.check hash e = none) :
    verifyFrom hash n c (ls ++ [l]) = .ok (.advance e) := by
  rw [verifyFrom_append, h]
  simp [verifyFrom, hd, hc]

/-- An accepted log is resumed at the position that checking it ends at. -/
theorem resume_of_verify {content : Bytes} {c : Chain} (h : verify hash content = .ok c) :
    resume hash content = some c := by
  unfold verify at h
  unfold resume
  rcases List.eq_nil_or_concat (records content) with hnil | ⟨ls, l, hl⟩
  · rw [hnil] at h ⊢
    cases h
    rfl
  · rw [List.concat_eq_append] at hl
    rw [hl, verifyFrom_append] at h
    rw [hl, List.getLast?_concat]
    split at h
    next c' hls =>
      simp only [verifyFrom] at h ⊢
      split at h
      · cases h
      next e he =>
        split at h
        · cases h
        · cases h
          rw [he]
          rfl
    · cases h

end Log

/-! ## Linked entries -/

namespace Chain

variable {hash : Hash}

/-- The digest at a position that entries reach is made of characters. -/
theorem Followed.legible (hl : hash.Legible) {es : List Entry}
    (h : (start hash).Followed hash es) : Utf8.repair ((start hash).after es).head = ((start hash).after es).head := by
  rcases List.eq_nil_or_concat es with rfl | ⟨es, e, rfl⟩
  · exact hl _
  · rw [List.concat_eq_append] at h ⊢
    rw [after_concat]
    change Utf8.repair e.hash = e.hash
    rw [(check_eq_none.1 (followed_concat.1 h).2).2.2]
    exact hl _

theorem advance_repair_link (hl : hash.Legible) (c : Chain) (e : Entry) :
    advance (c.link hash e).repair = advance (c.link hash e) := by
  have h : Utf8.repair (c.link hash e).hash = (c.link hash e).hash := hl _
  simp only [advance, Entry.repair, h]

/-- A linked entry is still the next one after it was written and read. -/
theorem check_repair_link (hl : hash.Legible) {c : Chain} (hc : Utf8.repair c.head = c.head) (e : Entry) :
    c.check hash (c.link hash e).repair = none := by
  have hseq : (c.link hash e).repair.seq = c.seq + 1 := rfl
  have hprev : (c.link hash e).repair.prevHash = c.head := hc
  -- the digest was taken of the text of the entry, which repairing does not change
  have hdigest : (c.link hash e).repair.hash = digest hash (c.link hash e).repair := by
    rw [digest, digested_repair]
    exact hl _
  simp [check, hseq, hprev, ← hdigest]

end Chain

/-! ## Runs of a log -/

/-- What a writer is called with: a record whose exit code has 64 bits, and the time of a clock. -/
structure Call where
  record : Record
  now : Instant
  exitCode_holds : Word.holds record.exitCode = true
  nanos_lt : now.nanos < 1000000000

/-- A step of a run: a writer is made, it is given up, or it is called. Some requests of the step may
be made to fail. -/
inductive Step where
  | new (faults : Faults)
  | drop
  | log (call : Call) (faults : Faults)

/-- A log file with its only writer, and the calls that have succeeded so far. -/
structure Session where
  content : Option Bytes := none
  writer : Option Logger := none
  done : List Call := []

namespace Session

/-- The session after a step. A call needs a writer, and a writer stays until another one is made. -/
def step (hash : Hash) (path : Bytes) (s : Session) : Step → Session
  | .new faults =>
    match Logger.new MemoryLog.store hash path ⟨s.content, faults⟩ with
    | (.ok l, m) => { s with content := m.content, writer := some l }
    | (.error _, m) => { s with content := m.content }
  | .drop => { s with writer := none }
  | .log call faults =>
    match s.writer with
    | none => s
    | some l =>
      match l.log MemoryLog.store hash call.record call.now ⟨s.content, faults⟩ with
      | (.ok l, m) => ⟨m.content, some l, s.done ++ [call]⟩
      | (.error _, m) => { s with content := m.content }

/-- The session after a list of steps, which starts without a file. -/
def run (hash : Hash) (path : Bytes) (steps : List Step) : Session := steps.foldl (step hash path) {}

end Session

/-- The entry of a call, with a number. -/
structure Call.Recorded (c : Call) (number : Nat) (e : Entry) : Prop where
  seq : e.seq = number.toUInt64
  time : e.time = ⟨c.now.seconds, c.now.nanos, 0⟩
  line : e.line = Utf8.repair c.record.line
  commands : e.commands = c.record.commands.map (·.map Utf8.repair)
  outcome : e.outcome = Utf8.repair c.record.outcome
  exitCode : e.exitCode = c.record.exitCode
  error : e.error = Utf8.repair (c.record.error.getD [])
  duration : e.duration = .ofMicros (Int.tdiv c.record.nanos 1000)
  cwd : e.cwd = Utf8.repair c.record.cwd

/-- One entry for each call, in order and numbered from one. -/
def Transcript (calls : List Call) (es : List Entry) : Prop :=
  es.length = calls.length ∧
    ∀ (i : Nat) (c : Call) (e : Entry), calls[i]? = some c → es[i]? = some e → c.Recorded (i + 1) e

/-- The entries of calls after a position: one for each call, in order, and each follows the one
before it. -/
structure Continued (hash : Hash) (c : Chain) (calls : List Call) (es : List Entry) : Prop where
  length : es.length = calls.length
  followed : c.Followed hash es
  recorded : ∀ (i : Nat) (call : Call) (e : Entry), calls[i]? = some call → es[i]? = some e →
    call.Recorded (c.seq.toNat + i + 1) e

theorem Continued.concat {hash : Hash} {c : Chain} {calls : List Call} {es : List Entry} {call : Call} {e : Entry}
    (h : Continued hash c calls es) (hcheck : (c.after es).check hash e = none)
    (hrecorded : call.Recorded (c.seq.toNat + calls.length + 1) e) : Continued hash c (calls ++ [call]) (es ++ [e]) := by
  refine ⟨by simp [h.length], Chain.followed_concat.2 ⟨h.followed, hcheck⟩, fun i call' e' hcall he => ?_⟩
  rcases Nat.lt_trichotomy i calls.length with hi | rfl | hi
  · rw [List.getElem?_append_left hi] at hcall
    rw [List.getElem?_append_left (h.length.symm ▸ hi)] at he
    exact h.recorded i call' e' hcall he
  · rw [List.getElem?_concat_length] at hcall
    rw [← h.length, List.getElem?_concat_length] at he
    cases hcall
    cases he
    exact hrecorded
  · rw [List.getElem?_eq_none (by simp; omega)] at hcall
    cases hcall

theorem Continued.seq_after {hash : Hash} {c : Chain} {calls : List Call} {es : List Entry}
    (h : Continued hash c calls es) : (c.after es).seq = (c.seq.toNat + calls.length).toUInt64 := by
  rw [h.followed.seq_after, h.length]
  change c.seq + UInt64.ofNat calls.length = UInt64.ofNat (c.seq.toNat + calls.length)
  rw [UInt64.ofNat_add, UInt64.ofNat_toNat]

namespace Session

/-- What every session keeps that goes on after entries which were there before: checking the log
ends at a position, the writer is at this position, and the new entries are those of the calls. -/
structure Sound (hash : Hash) (c₀ : Chain) (old : List Entry) (s : Session) (c : Chain) : Prop where
  verified : Log.verify hash (s.content.getD []) = .ok c
  terminated : Log.Terminated (s.content.getD [])
  legible : Utf8.repair c.head = c.head
  writer : ∀ l, s.writer = some l → l.chain = c
  continued : ∃ new, Log.entries (s.content.getD []) = old ++ new ∧ Continued hash c₀ s.done new ∧ c = c₀.after new

theorem Sound.transcript {hash : Hash} {s : Session} {c : Chain} (h : s.Sound hash (.start hash) [] c) :
    Transcript s.done (Log.entries (s.content.getD [])) := by
  obtain ⟨new, hentries, hnew, -⟩ := h.continued
  rw [hentries, List.nil_append]
  refine ⟨hnew.length, fun i call e hcall he => ?_⟩
  have hrecorded := hnew.recorded i call e hcall he
  rwa [show (Chain.start hash).seq.toNat + i + 1 = i + 1 by simp [Chain.start]] at hrecorded

theorem fits_link (hash : Hash) (c : Chain) (call : Call) :
    (c.link hash (.ofRecord call.record call.now)).Fits :=
  ⟨call.exitCode_holds, Double.canonical_ofMicros _, call.nanos_lt, rfl⟩

theorem recorded_link (hash : Hash) (c : Chain) (call : Call) {n : Nat} (h : c.seq = n.toUInt64) :
    call.Recorded (n + 1) (c.link hash (.ofRecord call.record call.now)).repair where
  seq := by
    change c.seq + 1 = (n + 1).toUInt64
    rw [h]
    exact (UInt64.ofNat_add n 1).symm
  time := rfl
  line := rfl
  commands := rfl
  outcome := rfl
  exitCode := rfl
  error := rfl
  duration := rfl
  cwd := rfl

section

variable {hash : Hash} {c₀ c : Chain} {old : List Entry} {s s' : Session}

theorem Sound.append (hl : hash.Legible) (h : s.Sound hash c₀ old c) {call : Call} {t : Bytes}
    (ht : (c.link hash (.ofRecord call.record call.now)).encode = some t) (path : Bytes) :
    Sound hash c₀ old ⟨some (s.content.getD [] ++ (t ++ [0x0A])),
      some ⟨path, .advance (c.link hash (.ofRecord call.record call.now))⟩, s.done ++ [call]⟩
      (.advance (c.link hash (.ofRecord call.record call.now))) := by
  have hfits := fits_link hash c call
  have hdecode := Entry.decode_encode hfits ht
  have hline := Entry.encode_line hfits.duration ht
  -- the entry is checked as it is read back, not as it was linked
  have hcheck := Chain.check_repair_link hl h.legible (.ofRecord call.record call.now)
  have hadvance := Chain.advance_repair_link hl c (.ofRecord call.record call.now)
  obtain ⟨new, hentries, hnew, rfl⟩ := h.continued
  have hrecorded := recorded_link hash (c₀.after new) call hnew.seq_after
  refine ⟨?_, ?_, hl _, ?_, new ++ [_], ?_, hnew.concat hcheck hrecorded, ?_⟩
  · rw [Option.getD_some, Log.verify, Log.records_append_line h.terminated hline,
      Log.verifyFrom_concat h.verified hdecode hcheck, hadvance]
  · exact .inr ⟨s.content.getD [] ++ t, (List.append_assoc _ _ _).symm⟩
  · rintro l ⟨⟩
    rfl
  · rw [Option.getD_some, Log.entries_append_line h.terminated hline hdecode, hentries, List.append_assoc]
  · rw [Chain.after_concat, hadvance]

theorem Sound.congr (h : s.Sound hash c₀ old c) (hcontent : s'.content.getD [] = s.content.getD [])
    (hdone : s'.done = s.done) (hwriter : ∀ l, s'.writer = some l → l.chain = c) : s'.Sound hash c₀ old c :=
  ⟨hcontent ▸ h.verified, hcontent ▸ h.terminated, h.legible, hwriter, hcontent ▸ hdone ▸ h.continued⟩

end

/-- Making a writer leaves the file as it is. Where no request fails, it starts where the log is resumed. -/
theorem new_of_resume {hash : Hash} {content : Option Bytes} {c : Chain}
    (h : Log.resume hash (content.getD []) = some c) (path : Bytes) (faults : Faults) :
    Logger.new MemoryLog.store hash path ⟨content, faults⟩ =
      (if faults.makeParent then .error (.makeParent MemoryLog.injected)
        else if faults.read then .error (.reading MemoryLog.injected) else .ok ⟨path, c⟩, ⟨content, faults⟩) := by
  obtain ⟨makeParent, read, opening, writing⟩ := faults
  cases makeParent with
  | true => rfl
  | false =>
    cases read with
    | true => rfl
    | false =>
      cases content with
      | none =>
        cases h
        rfl
      | some content =>
        rw [Option.getD_some] at h
        simp [Logger.new, MemoryLog.store, h]

/-- A writer starts at the end of an accepted log. -/
theorem new_spec {hash : Hash} {content : Option Bytes} {c : Chain}
    (h : Log.verify hash (content.getD []) = .ok c) (path : Bytes) (faults : Faults) :
    Logger.new MemoryLog.store hash path ⟨content, faults⟩ =
      (if faults.makeParent then .error (.makeParent MemoryLog.injected)
        else if faults.read then .error (.reading MemoryLog.injected) else .ok ⟨path, c⟩, ⟨content, faults⟩) :=
  new_of_resume (Log.resume_of_verify h) path faults

/-- A call either fails and keeps the content of the file, or appends the linked entry as a line. -/
theorem log_cases {hash : Hash} {l : Logger} {r : Record} {now : Instant} {m m' : MemoryLog}
    {result : Except LogError Logger} (h : l.log MemoryLog.store hash r now m = (result, m')) :
    (∃ e, result = .error e ∧ m'.content.getD [] = m.content.getD []) ∨
      ∃ t, (l.chain.link hash (.ofRecord r now)).encode = some t ∧
        result = .ok ⟨l.path, .advance (l.chain.link hash (.ofRecord r now))⟩ ∧
        m'.content = some (m.content.getD [] ++ (t ++ [0x0A])) := by
  unfold Logger.log MemoryLog.store at h
  dsimp only at h
  cases ht : (l.chain.link hash (.ofRecord r now)).encode with
  | none =>
    rw [ht] at h
    cases h
    exact .inl ⟨_, rfl, rfl⟩
  | some t =>
    rw [ht] at h
    dsimp only at h
    cases hopening : m.faults.opening with
    | true =>
      simp only [hopening, if_true] at h
      cases h
      exact .inl ⟨_, rfl, rfl⟩
    | false =>
      cases hwriting : m.faults.writing with
      | true =>
        simp only [hopening, hwriting, if_true, if_false, Bool.false_eq_true] at h
        cases h
        exact .inl ⟨_, rfl, rfl⟩
      | false =>
        simp only [hopening, hwriting, if_false, Bool.false_eq_true] at h
        cases h
        exact .inr ⟨t, rfl, rfl, rfl⟩

/-- A call that fails changes neither what the file holds nor the writer. -/
theorem step_log_error {hash : Hash} {s : Session} {call : Call} {faults : Faults} {l : Logger} {e : LogError}
    {m : MemoryLog} (path : Bytes) (hw : s.writer = some l)
    (h : l.log MemoryLog.store hash call.record call.now ⟨s.content, faults⟩ = (.error e, m)) :
    s.step hash path (.log call faults) = { s with content := m.content } ∧
      m.content.getD [] = s.content.getD [] := by
  refine ⟨by simp only [step, hw, h], ?_⟩
  rcases log_cases h with ⟨e', -, hm⟩ | ⟨t, -, hr, -⟩
  · exact hm
  · cases hr

section

variable {hash : Hash} {c₀ c : Chain} {old : List Entry} {s : Session}

theorem Sound.step (hl : hash.Legible) (h : s.Sound hash c₀ old c) (path : Bytes) (a : Step) :
    ∃ c', (s.step hash path a).Sound hash c₀ old c' := by
  cases a with
  | new faults =>
    refine ⟨c, ?_⟩
    rw [Session.step, new_spec h.verified path faults]
    cases faults.makeParent with
    | true => exact h.congr rfl rfl h.writer
    | false =>
      cases faults.read with
      | true => exact h.congr rfl rfl h.writer
      | false => exact h.congr rfl rfl fun l hl' => by cases hl'; rfl
  | drop => exact ⟨c, h.congr rfl rfl fun l hl' => by cases hl'⟩
  | log call faults =>
    cases hw : s.writer with
    | none => exact ⟨c, by simpa only [Session.step, hw] using h⟩
    | some l =>
      obtain ⟨result, m, hr⟩ : ∃ result m,
          l.log MemoryLog.store hash call.record call.now ⟨s.content, faults⟩ = (result, m) := ⟨_, _, rfl⟩
      rcases log_cases hr with ⟨e, rfl, hm⟩ | ⟨t, ht, rfl, hm⟩
      · refine ⟨c, ?_⟩
        rw [(step_log_error path hw hr).1]
        exact h.congr hm rfl h.writer
      · rw [h.writer l hw] at ht hr
        refine ⟨.advance (c.link hash (.ofRecord call.record call.now)), ?_⟩
        simp only [Session.step, hw, hr, hm]
        exact h.append hl ht l.path

theorem Sound.steps (hl : hash.Legible) (h : s.Sound hash c₀ old c) (path : Bytes) (steps : List Step) :
    ∃ c', (steps.foldl (Session.step hash path) s).Sound hash c₀ old c' := by
  induction steps generalizing s c with
  | nil => exact ⟨c, h⟩
  | cons a steps ih =>
    obtain ⟨c', h'⟩ := h.step hl path a
    exact ih h'

end

theorem sound_start (hash : Hash) (hl : hash.Legible) : Sound hash (.start hash) [] {} (.start hash) :=
  ⟨rfl, .inl rfl, hl _, fun l h => (by cases h), [], rfl, ⟨rfl, trivial, fun i c e h => (by simp at h)⟩, rfl⟩

theorem sound_run {hash : Hash} (hl : hash.Legible) (path : Bytes) (steps : List Step) :
    ∃ c, (run hash path steps).Sound hash (.start hash) [] c :=
  (sound_start hash hl).steps hl path steps

/-- What holds of a log after every step of a run. -/
structure Intact (hash : Hash) (path : Bytes) (s : Session) : Prop where
  /-- The log is accepted, where there is one. -/
  verified : ∀ content, s.content = some content →
    Log.verifyAt MemoryLog.store hash path ⟨some content, {}⟩ = none
  /-- Its entries are those of the calls that succeeded. -/
  transcript : ∀ content, s.content = some content →
    ∃ es, Log.tailAt MemoryLog.store path 0 ⟨some content, {}⟩ = .ok es ∧ Transcript s.done es
  missing : s.content = none → s.done = []
  /-- A call that fails keeps what the file holds, and the writer with its position. -/
  unmoved : ∀ (call : Call) (faults : Faults) (l : Logger) (e : LogError) (m : MemoryLog),
    s.writer = some l →
    l.log MemoryLog.store hash call.record call.now ⟨s.content, faults⟩ = (.error e, m) →
    (s.step hash path (.log call faults)).content.getD [] = s.content.getD [] ∧
      (s.step hash path (.log call faults)).writer = some l

/-- A log that only its writers touch, one at a time, stays intact: through restarts, through every
request that fails, and whatever its records hold. -/
theorem run_intact (digest : Bytes → Bytes) (path : Bytes) (steps : List Step) :
    (run (.hexadecimal digest) path steps).Intact (.hexadecimal digest) path := by
  obtain ⟨c, h⟩ := sound_run (Hash.hexadecimal_legible digest) path steps
  generalize run (.hexadecimal digest) path steps = s at h ⊢
  refine ⟨fun content hs => ?_, fun content hs => ?_, fun hs => ?_, fun call faults l e m hw hm => ?_⟩
  · have hv := h.verified
    rw [hs, Option.getD_some] at hv
    simp [Log.verifyAt, MemoryLog.store, hv]
  · have ht := h.transcript
    rw [hs, Option.getD_some] at ht
    exact ⟨Log.entries content, by simp [Log.tailAt, MemoryLog.store, Log.tail], ht⟩
  · have ht := h.transcript.1
    rw [hs] at ht
    exact List.eq_nil_of_length_eq_zero ht.symm
  · obtain ⟨hstep, hcontent⟩ := step_log_error path hw hm
    rw [hstep]
    exact ⟨hcontent, hw⟩

-- two calls succeed, the one between them fails, and a second writer goes on after the first
example :
    let call : Call := ⟨⟨text "a\nb", none, text "ok", -1, none, 1500, []⟩, ⟨0, 1, 0⟩, by decide, by decide⟩
    let s := run (.hexadecimal fun t => t.take 1) [] [.new {}, .log call {}, .log call ⟨false, false, false, true⟩, .drop,
      .log call {}, .new {}, .log call {}]
    s.done.length = 2 ∧ (Log.entries (s.content.getD [])).map (·.seq) = [1, 2] := by
  decide +kernel

end Session

end AuditShell.Audit
