import AuditShell.Audit.Entry
import AuditShell.Proofs.Instant
import AuditShell.Proofs.Numeral

/-!
# Entries are read back

`Entry.decode_encode`: the text of an entry is read as the entry, with each stray byte of its texts
replaced by U+FFFD (`Entry.repair`). `Entry.encode_repair`: writing what was read gives the same
text, so a digest that was taken before writing is found again after reading. `Entry.encode_line`: the text is one
line.
-/
namespace AuditShell.Audit.Entry

open Json (Value IsNumber)

/-- The entry with each stray byte of its texts replaced. -/
def repair (e : Entry) : Entry where
  seq := e.seq
  time := e.time
  prevHash := Utf8.repair e.prevHash
  line := Utf8.repair e.line
  commands := e.commands.map (·.map Utf8.repair)
  outcome := Utf8.repair e.outcome
  exitCode := e.exitCode
  error := Utf8.repair e.error
  duration := e.duration
  cwd := Utf8.repair e.cwd
  hash := Utf8.repair e.hash

/-- The fields of an entry are values that the log can hold: an exit code of 64 bits, a duration in
its one representation, and a time of the zone without offset. -/
structure Fits (e : Entry) : Prop where
  exitCode : Word.holds e.exitCode = true
  duration : e.duration.Canonical
  nanos : e.time.nanos < 1000000000
  offset : e.time.offset = 0

/-! ## The members of an entry -/

/-- The commands of an entry as a value. -/
def commandsValue : Option (List Bytes) → Value
  | none => .null
  | some cs => .array (cs.map .string)

/-- The members of an entry whose time has a text. -/
def members (e : Entry) (time : Bytes) : List (Bytes × Value) :=
  [(text "seq", .number (Bytes.ofNat e.seq.toNat)), (text "ts", .string time),
    (text "prev_hash", .string e.prevHash), (text "line", .string e.line),
    (text "commands", commandsValue e.commands), (text "outcome", .string e.outcome),
    (text "exit_code", .number (Bytes.ofInt e.exitCode))] ++
  (if e.error = [] then [] else [(text "error", .string e.error)]) ++
  [(text "duration_ms", .number e.duration.render), (text "cwd", .string e.cwd), (text "hash", .string e.hash)]

theorem toJson_eq (e : Entry) : e.toJson = e.time.render.map fun time => .object (e.members time) := by
  obtain ⟨_, time, _, _, commands, _, _, _, _, _, _⟩ := e
  cases h : time.render <;> cases commands <;> simp [toJson, h, members, commandsValue]

theorem repair_commandsValue (commands : Option (List Bytes)) :
    (commandsValue commands).repair = commandsValue (commands.map (·.map Utf8.repair)) := by
  cases commands with
  | none => rfl
  | some cs =>
    simp only [commandsValue, Value.repair, Option.map_some, Value.array.injEq]
    induction cs with
    | nil => rfl
    | cons c cs ih => simp only [List.map_cons, Value.repairElements, Value.repair, ih]

theorem repair_render {t : Instant} {b : Bytes} (h : t.render = some b) : Utf8.repair b = b := by
  unfold Instant.render at h
  dsimp only at h
  split at h
  · cases h
  · cases h
    exact Utf8.repair_encode _

@[simp] theorem repair_time (e : Entry) : e.repair.time = e.time := rfl

theorem repair_members (e : Entry) {time : Bytes} (h : Utf8.repair time = time) :
    Value.repairMembers (e.members time) = e.repair.members time := by
  unfold members
  by_cases he : e.error = []
  · simp [he, repair, Value.repairMembers, Value.repair, Utf8.repair_text, h, repair_commandsValue,
      show Utf8.repair [] = [] from rfl]
  · have he' : Utf8.repair e.error ≠ [] := fun h0 => he (Utf8.repair_eq_nil.mp h0)
    simp [he, he', repair, Value.repairMembers, Value.repair, Utf8.repair_text, h, repair_commandsValue]

/-- Writing the repaired entry gives the text of the entry again. -/
theorem encode_repair (e : Entry) : e.repair.encode = e.encode := by
  rw [encode, encode, toJson_eq, toJson_eq, repair_time]
  cases h : e.time.render with
  | none => rfl
  | some time =>
    simp only [Option.map_some, Option.some.injEq]
    rw [← Json.compact_repair (.object (e.members time)), Value.repair, repair_members e (repair_render h)]

/-! ## Reading -/

theorem fits_commandsValue (commands : Option (List Bytes)) {depth : Nat} (h : 1 ≤ depth) :
    (commandsValue commands).Fits depth := by
  cases commands with
  | none => trivial
  | some cs =>
    refine ⟨h, ?_⟩
    induction cs with
    | nil => trivial
    | cons c cs ih => exact ⟨trivial, ih⟩

theorem fits_members {e : Entry} (h : e.duration.Canonical) (time : Bytes) :
    (Value.object (e.members time)).Fits Json.maxDepth := by
  obtain ⟨cs, hcs, hrender, -⟩ := double?_render h
  have hseq : ∃ cs, IsNumber cs ∧ Bytes.ofNat e.seq.toNat = Utf8.encode cs :=
    ⟨_, isNumber_toDigits _, ofNat_eq _⟩
  have hexit : ∃ cs, IsNumber cs ∧ Bytes.ofInt e.exitCode = Utf8.encode cs :=
    ⟨_, isNumber_intChars _, ofInt_eq _⟩
  have hduration : ∃ cs, IsNumber cs ∧ e.duration.render = Utf8.encode cs := ⟨cs, hcs, hrender⟩
  have hcommands : (commandsValue e.commands).Fits (Json.maxDepth - 1) :=
    fits_commandsValue e.commands (by decide)
  refine ⟨by decide, ?_⟩
  unfold members
  split <;> simp only [List.append_nil, List.cons_append, List.nil_append, Value.FitsMembers, Value.Fits]
  · exact ⟨hseq, trivial, trivial, trivial, hcommands, trivial, hexit, hduration, trivial, trivial, trivial⟩
  · exact ⟨hseq, trivial, trivial, trivial, hcommands, trivial, hexit, trivial, hduration, trivial, trivial, trivial⟩

theorem overwrite_strings (cs : List Bytes) : overwrite [] (cs.map .string) = some cs := by
  induction cs with
  | nil => rfl
  | cons c cs ih => simp [overwrite, ih]

theorem ofName_names :
    Field.ofName (Utf8.decode (text "seq")) = some .seq ∧ Field.ofName (Utf8.decode (text "ts")) = some .time ∧
      Field.ofName (Utf8.decode (text "prev_hash")) = some .prevHash ∧
      Field.ofName (Utf8.decode (text "line")) = some .line ∧
      Field.ofName (Utf8.decode (text "commands")) = some .commands ∧
      Field.ofName (Utf8.decode (text "outcome")) = some .outcome ∧
      Field.ofName (Utf8.decode (text "exit_code")) = some .exitCode ∧
      Field.ofName (Utf8.decode (text "error")) = some .error ∧
      Field.ofName (Utf8.decode (text "duration_ms")) = some .duration ∧
      Field.ofName (Utf8.decode (text "cwd")) = some .cwd ∧
      Field.ofName (Utf8.decode (text "hash")) = some .hash := by
  simp only [text, Utf8.decode_encode]
  decide

/-- The members of an entry are read as the entry, whatever text its time is read from. -/
theorem ofJson_members {e : Entry} (hexitCode : Word.holds e.exitCode = true) (hcanonical : e.duration.Canonical)
    {time : Bytes} (htime : Instant.parse (Utf8.decode time) = some e.time) :
    ofJson (.object (e.members time)) = some e := by
  obtain ⟨cs, -, hrender, hduration⟩ := double?_render hcanonical
  have hseq := unsigned?_ofNat e.seq
  have hexit := signed?_ofInt hexitCode
  obtain ⟨seq, t, prevHash, line, commands, outcome, exitCode, error, duration, cwd, hash⟩ := e
  dsimp only at hseq hexit htime hrender hduration
  -- an entry without error has no such member, and its error stays empty
  cases commands <;> by_cases he : error = [] <;>
    simp [ofJson, members, readMember, ofName_names, he, hseq, hexit, htime, hrender, hduration, commandsValue,
      readCommands, overwrite_strings]

/-! ## Round trip -/

theorem Fits.repair {e : Entry} (h : e.Fits) : e.repair.Fits :=
  ⟨h.exitCode, h.duration, h.nanos, h.offset⟩

theorem encode_eq_some {e : Entry} {t : Bytes} :
    e.encode = some t ↔ ∃ time, e.time.render = some time ∧ (Value.object (e.members time)).compact = t := by
  rw [encode, toJson_eq, Option.map_map, Option.map_eq_some_iff]
  rfl

/-- An entry behind another on one line cannot be read. -/
theorem decode_encode_append {e f : Entry} (he : e.duration.Canonical) (hf : f.duration.Canonical) {t u : Bytes}
    (ht : e.encode = some t) (hu : f.encode = some u) : decode (t ++ u) = none := by
  obtain ⟨time, -, rfl⟩ := encode_eq_some.1 ht
  obtain ⟨time', -, rfl⟩ := encode_eq_some.1 hu
  have hne : e.members time ≠ [] := by simp [members]
  rw [decode, Json.parse_object_append hne (fits_members he time) (fits_members hf time')]

/-- An entry has no text if and only if its time has none. -/
theorem encode_eq_none {e : Entry} : e.encode = none ↔ e.time.render = none := by
  rw [encode, toJson_eq, Option.map_eq_none_iff, Option.map_eq_none_iff]

/-- The text of an entry is read as the entry, with each stray byte replaced. -/
theorem decode_encode {e : Entry} (h : e.Fits) {t : Bytes} (ht : e.encode = some t) :
    decode t = some e.repair := by
  obtain ⟨time, htime, rfl⟩ := encode_eq_some.mp ht
  rw [decode, Json.parse_compact (fits_members h.duration time)]
  rw [Value.repair, repair_members e (repair_render htime)]
  exact ofJson_members h.repair.exitCode h.repair.duration (Instant.parse_render h.repair.nanos h.repair.offset htime)

/-- The text of an entry is a line of its own, whatever its fields hold. -/
theorem encode_line {e : Entry} (h : e.duration.Canonical) {t : Bytes} (ht : e.encode = some t) :
    0x0A ∉ t ∧ t ≠ [] := by
  obtain ⟨time, -, rfl⟩ := encode_eq_some.mp ht
  exact Json.compact_line (fits_members h time)

/-! ## Entries that were read -/

theorem readMember_canonical {d d' : Draft} {m : Bytes × Value} (h : readMember d m = some d')
    (hd : d.entry.duration.Canonical) : d'.entry.duration.Canonical := by
  unfold readMember at h
  dsimp only at h
  split at h
  · cases h
    exact hd
  split at h
  case h_6 t =>
    obtain ⟨x, hx, rfl⟩ := Option.map_eq_some_iff.1 h
    exact canonical_double? hx
  -- no other member touches the duration
  case h_3 | h_4 | h_5 | h_7 =>
    obtain ⟨x, -, rfl⟩ := Option.map_eq_some_iff.1 h
    exact hd
  case h_14 => cases h
  all_goals
    cases h
    exact hd

/-- The duration of an entry that was read is in its one representation, whatever the text says. -/
theorem canonical_of_decode {t : Bytes} {e : Entry} (h : decode t = some e) : e.duration.Canonical := by
  have main : ∀ (ms : List (Bytes × Value)) (d d' : Draft), d.entry.duration.Canonical →
      ms.foldlM readMember d = some d' → d'.entry.duration.Canonical := by
    intro ms
    induction ms with
    | nil =>
      intro d d' hd h
      cases h
      exact hd
    | cons m ms ih =>
      intro d d' hd h
      rw [List.foldlM_cons] at h
      obtain ⟨d₁, h₁, h₂⟩ := Option.bind_eq_some_iff.1 h
      exact ih d₁ d' (readMember_canonical h₁ hd) h₂
  unfold decode at h
  split at h
  · unfold ofJson at h
    split at h
    · cases h
      exact Double.canonical_zero false
    · obtain ⟨d, hd, rfl⟩ := Option.map_eq_some_iff.1 h
      exact main _ {} d (Double.canonical_zero false) hd
    · cases h
  · cases h

end AuditShell.Audit.Entry
