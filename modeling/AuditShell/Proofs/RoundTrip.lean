import AuditShell.Proofs.Log
/-!
# An entry and its text

`Entry.round_trip`: each entry that the log can hold has a text of one line. The entry that is read from it is the
entry itself exactly where all its texts are characters. Otherwise each stray byte has become U+FFFD, but writing what
was read gives the same text again, so an entry has one digest before it is written and after it was read.

The entries that the log can hold are those with a year of at most four digits in the zone without offset
(`Instant.render_ne_none_iff`), an exit code of 64 bits, and a finite duration (`Entry.Fits`).
-/
namespace AuditShell

/-- The year of a point in time, in the zone without offset. -/
def Instant.year (t : Instant) : Int := (dateOfDays (Int.fdiv t.seconds 86400)).year

/-- A point in time without offset has a text exactly where its year has at most four digits. -/
theorem Instant.render_ne_none_iff {t : Instant} (h : t.offset = 0) : t.render ≠ none ↔ 0 ≤ t.year ∧ t.year ≤ 9999 := by
  have hbounds : (t.year < 0 ∨ 9999 < t.year ∨ 86400 ≤ t.offset.natAbs) ↔ ¬ (0 ≤ t.year ∧ t.year ≤ 9999) := by
    rw [h]
    omega
  have hnow : (dateOfDays (Int.fdiv (t.seconds + t.offset) 86400)).year = t.year := by
    rw [h, Int.add_zero, year]
  unfold render
  dsimp only
  rw [hnow, if_congr hbounds rfl rfl]
  split
  next hnot => simp [hnot]
  next hyear => simpa using hyear

theorem Utf8.repair_eq_self_iff {bs : Bytes} : repair bs = bs ↔ isValid bs = true := by
  refine ⟨fun h => ?_, repair_of_isValid⟩
  rw [← h]
  exact isValid_encode _

namespace Audit.Entry

/-- The texts that an entry holds. -/
def texts (e : Entry) : List Bytes :=
  [e.prevHash, e.line, e.outcome, e.error, e.cwd, e.hash] ++ e.commands.getD []

theorem map_repair_eq_self_iff {commands : Option (List Bytes)} :
    commands.map (·.map Utf8.repair) = commands ↔ ∀ s ∈ commands.getD [], Utf8.isValid s = true := by
  cases commands with
  | none => simp
  | some cs =>
    have hself : cs.map Utf8.repair = cs ↔ ∀ s ∈ cs, Utf8.repair s = id s := by
      conv_lhs => rw [← List.map_id cs, List.map_map, Function.comp_id]
      exact List.map_inj_left
    simp only [Option.map_some, Option.some.injEq, Option.getD_some, hself, id, Utf8.repair_eq_self_iff]

/-- Nothing is replaced in an entry exactly where all its texts are characters. -/
theorem repair_eq_self_iff {e : Entry} : e.repair = e ↔ ∀ s ∈ e.texts, Utf8.isValid s = true := by
  obtain ⟨seq, time, prevHash, line, commands, outcome, exitCode, error, duration, cwd, hash⟩ := e
  simp only [repair, texts, Entry.mk.injEq, true_and, Utf8.repair_eq_self_iff, map_repair_eq_self_iff,
    List.forall_mem_append, List.forall_mem_cons, List.not_mem_nil, false_implies, implies_true, and_true]
  tauto

/-- Every entry that the log can hold has a text, on one line. Reading the text gives the entry with each stray byte
replaced, which is the entry itself exactly where it has none; no commands and an empty list of commands stay apart.
What was read has the same text and the same digest as the entry, whatever its texts hold. -/
theorem round_trip {e : Entry} (h : e.Fits) (hyear : 0 ≤ e.time.year ∧ e.time.year ≤ 9999) (hash : Hash) :
    ∃ t, e.encode = some t ∧ 0x0A ∉ t ∧
      (decode t = some e ↔ ∀ s ∈ e.texts, Utf8.isValid s = true) ∧
      ∃ e', decode t = some e' ∧ (e'.commands = none ↔ e.commands = none) ∧
        (e'.commands = some [] ↔ e.commands = some []) ∧ e'.encode = some t ∧ Chain.digest hash e' = Chain.digest hash e := by
  have htext : e.encode ≠ none := by
    rw [Ne, encode_eq_none]
    exact (Instant.render_ne_none_iff h.offset).2 hyear
  obtain ⟨t, ht⟩ := Option.ne_none_iff_exists'.1 htext
  have hread : decode t = some e.repair := decode_encode h ht
  refine ⟨t, ht, (encode_line h.duration ht).1, ?_, e.repair, hread, ?_, ?_, ?_, ?_⟩
  · rw [hread, Option.some.injEq, repair_eq_self_iff]
  · simp [repair]
  · simp [repair]
  · rw [encode_repair, ht]
  · rw [Chain.digest, digested_repair, Chain.digest]

/-- An entry at the limits of its numbers, in the last second that has a text, with a newline and a stray byte in its
line: it is read back without the stray byte, and has the same digest. -/
theorem round_trip_stray :
    let e : Entry := {
      seq := 0xFFFFFFFFFFFFFFFF, time := ⟨253402300799, 999999999, 0⟩, line := [0x0A, 0xFF, 0x3C], commands := some []
      exitCode := -9223372036854775808, duration := .ofMicros 1234567 }
    ∃ t, e.encode = some t ∧ 0x0A ∉ t ∧ decode t ≠ some e ∧
      ∃ e', decode t = some e' ∧ e'.commands = some [] ∧ Chain.digest sha256 e' = Chain.digest sha256 e := by
  intro e
  have hfits : e.Fits := ⟨by decide, Double.canonical_ofMicros 1234567, by decide, rfl⟩
  obtain ⟨t, ht, hline, hread, e', he', -, hcommands, -, hdigest⟩ := round_trip hfits (by decide +kernel) sha256
  have hstray : ¬ ∀ s ∈ e.texts, Utf8.isValid s = true := fun hall => by
    have hvalid := hall e.line (by simp [texts])
    revert hvalid
    decide
  exact ⟨t, ht, hline, fun h => hstray (hread.1 h), e', he', hcommands.2 rfl, hdigest⟩

end Audit.Entry

end AuditShell
