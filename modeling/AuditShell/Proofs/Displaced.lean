import AuditShell.Number.Word
import AuditShell.Proofs.Log
/-!
# Lines out of place

`Log.verify_rearranged`: the lines of an accepted log in any other order, with lines left out or repeated, are
accepted only where they are the first lines of the log in their order. Otherwise the first line that is not in
its place is found, by the number that its entry carries. Nothing is asked of the digest.

The entries of an accepted log carry the numbers of their lines (`Chain.Followed.seq_getElem`), and the number
is looked at before anything else.
-/
namespace AuditShell.Audit

namespace Chain

variable {hash : Hash}

theorem Followed.take {c : Chain} {es : List Entry} (h : c.Followed hash es) (n : Nat) :
    c.Followed hash (es.take n) := by
  rw [← List.take_append_drop n es, followed_append] at h
  exact h.1

theorem Followed.seq_getElem {es : List Entry} (h : (start hash).Followed hash es) {j : Nat} (hj : j < es.length) :
    es[j].seq = (j + 1).toUInt64 := by
  have hseq := (h.take (j + 1)).seq_after
  rw [List.length_take_of_le hj, List.take_succ_eq_append_getElem hj, after_concat] at hseq
  simpa [advance, start] using hseq

theorem seq_after_take {es : List Entry} (h : (start hash).Followed hash es) {k : Nat} (hk : k ≤ es.length) :
    ((start hash).after (es.take k)).seq = k.toUInt64 := by
  have hseq := (h.take k).seq_after
  rw [List.length_take_of_le hk] at hseq
  simpa [start] using hseq

/-- At the place of an entry, an entry with another number is a gap. -/
theorem check_displaced {es : List Entry} (h : (start hash).Followed hash es) (hn : es.length < Word.count) {j k : Nat}
    (hj : j < es.length) (hk : k ≤ es.length) (hne : j ≠ k) :
    ((start hash).after (es.take k)).check hash es[j] =
      some (.sequence (k + 1).toUInt64 (j + 1).toUInt64) := by
  have hsucc : k.toUInt64 + 1 = (k + 1).toUInt64 := (UInt64.ofNat_add k 1).symm
  have hcount : Word.count = 2 ^ 64 := rfl
  have hdiffer : (j + 1).toUInt64 ≠ (k + 1).toUInt64 := by
    intro heq
    have hmod : (j + 1) % 2 ^ 64 = (k + 1) % 2 ^ 64 := congrArg UInt64.toNat heq
    omega
  unfold check
  rw [h.seq_getElem hj, seq_after_take h hk, hsucc, if_pos hdiffer]

end Chain

namespace Log

variable {hash : Hash} {content : Bytes} {c : Chain}

theorem verifyFrom_take (h : verify hash content = .ok c) (k : Nat) :
    verifyFrom hash 1 (.start hash) ((records content).take k) =
      .ok ((Chain.start hash).after ((entries content).take k)) := by
  obtain ⟨hdecode, hfollowed, -⟩ := verify_eq_ok.1 h
  refine verifyFrom_eq_ok.2 ⟨(entries content).take k, ?_, hfollowed.take k, rfl⟩
  rw [List.map_take, List.map_take, hdecode]

theorem verify_of_prefix {content' : Bytes} (h : verify hash content = .ok c)
    (hlines : records content' <+: records content) : ∃ c', verify hash content' = .ok c' := by
  have htake := List.prefix_iff_eq_take.1 hlines
  rw [verify, htake]
  exact ⟨_, verifyFrom_take h _⟩

/-- The first `k` of some places in a log are the first places of the log. -/
def InPlace {n : Nat} (js : List (Fin n)) (k : Nat) : Prop := ∀ i (hi : i < js.length), i < k → (js[i] : Nat) = i

theorem InPlace.le {n : Nat} {js : List (Fin n)} {k : Nat} (h : InPlace js k) (hk : k ≤ js.length) : k ≤ n := by
  cases k with
  | zero => exact Nat.zero_le n
  | succ k =>
    have hlast := h k (by omega) (by omega)
    have hlt := (js[k]).isLt
    omega

/-- Places that are not all in order have a first one that is not. -/
theorem InPlace.or_displaced {n : Nat} (js : List (Fin n)) :
    InPlace js js.length ∨ ∃ k, ∃ hk : k < js.length, InPlace js k ∧ (js[k] : Nat) ≠ k := by
  by_cases hplace : InPlace js js.length
  · exact .inl hplace
  · have hdisplaced : ∃ k, ∃ hk : k < js.length, (js[k] : Nat) ≠ k := by
      simpa [InPlace] using hplace
    obtain ⟨hk, hne⟩ := Nat.find_spec hdisplaced
    refine .inr ⟨_, hk, fun i hi hlt => ?_, hne⟩
    by_contra hi'
    exact Nat.find_min hdisplaced hlt ⟨hi, hi'⟩

variable {js : List (Fin (records content).length)} {k : Nat}

theorem InPlace.lines (h : InPlace js k) (hk : k ≤ js.length) :
    (js.take k).map (records content).get = (records content).take k := by
  have hle := h.le hk
  refine List.ext_getElem (by simp [hk, hle]) fun i hi hi' => ?_
  have hlt : i < k := by
    simp only [List.length_map, List.length_take] at hi
    omega
  have hplace := h i (by omega) hlt
  simp [hplace]

theorem verify_displaced {content' : Bytes} (h : verify hash content = .ok c)
    (hn : (records content).length < Word.count) (hlines : records content' = js.map (records content).get)
    (hplace : InPlace js k) (hk : k < js.length) (hne : (js[k] : Nat) ≠ k) :
    verify hash content' =
      .error ⟨k + 1, some (.sequence (k + 1).toUInt64 ((js[k] : Nat) + 1).toUInt64)⟩ := by
  obtain ⟨hdecode, hfollowed, -⟩ := verify_eq_ok.1 h
  have hlength : (entries content).length = (records content).length := by
    simpa using (congrArg List.length hdecode).symm
  have hle := hplace.le hk.le
  have hlt : (js[k] : Nat) < (entries content).length := by
    rw [hlength]
    exact (js[k]).isLt
  have hread : Entry.decode ((records content).get js[k]) = some (entries content)[(js[k] : Nat)] := by
    have hat := congrArg (·[(js[k] : Nat)]?) hdecode
    simpa [hlt] using hat
  have hsplit : records content' =
      (records content).take k ++ (records content).get js[k] :: (js.drop (k + 1)).map (records content).get := by
    rw [hlines, ← hplace.lines hk.le, ← List.map_cons, ← List.map_append, List.getElem_cons_drop,
      List.take_append_drop]
  have hgap := Chain.check_displaced hfollowed (by omega) hlt (by omega) hne
  have hline : 1 + k = k + 1 := Nat.add_comm 1 k
  rw [verify, hsplit, verifyFrom_append, verifyFrom_take h]
  simp only [verifyFrom, hread, hgap, List.length_take_of_le hle, hline]

/-- Lines of an accepted log in another order, left out or repeated, are accepted if and only if each is in its
place, which leaves the first lines of the log. Otherwise the first line that is not in its place is found, with
its number there and the number of its entry. The numbers are words: `(k + 1) % Word.count` is `k + 1`, but for
a line behind a log of `2 ^ 64 - 1` entries. -/
theorem verify_rearranged {content' : Bytes} (h : verify hash content = .ok c)
    (hn : (records content).length < Word.count) (js : List (Fin (records content).length))
    (hlines : records content' = js.map (records content).get) :
    ((∃ c', verify hash content' = .ok c') ↔ ∀ k (hk : k < js.length), (js[k] : Nat) = k) ∧
      ((∃ c', verify hash content' = .ok c') ↔ records content' <+: records content) ∧
      ∀ k (hk : k < js.length), (∀ i (hi : i < k), (js[i] : Nat) = i) → (js[k] : Nat) ≠ k →
        ∃ e, verify hash content' = .error e ∧ e.line = k + 1 ∧
          e.reason = text "sequence gap: expected " ++ Bytes.ofNat ((k + 1) % Word.count) ++ text ", got " ++
            Bytes.ofNat ((js[k] : Nat) + 1) := by
  have hwhole (hplace : InPlace js js.length) : records content' <+: records content := by
    have hlines' := hplace.lines le_rfl
    rw [List.take_length, ← hlines] at hlines'
    rw [hlines']
    exact List.take_prefix _ _
  have haccepted (hok : ∃ c', verify hash content' = .ok c') : InPlace js js.length := by
    obtain ⟨c', hok⟩ := hok
    rcases InPlace.or_displaced js with hplace | ⟨k, hk, hplace, hne⟩
    · exact hplace
    · rw [verify_displaced h hn hlines hplace hk hne] at hok
      cases hok
  refine ⟨⟨fun hok k hk => haccepted hok k hk hk, fun hplace => ?_⟩,
    ⟨fun hok => hwhole (haccepted hok), verify_of_prefix h⟩, fun k hk hplace hne => ?_⟩
  · exact verify_of_prefix h (hwhole fun i hi _ => hplace i hi)
  · have hnumber : ((js[k] : Nat) + 1).toUInt64.toNat = (js[k] : Nat) + 1 := by
      have hlt := (js[k]).isLt
      exact Nat.mod_eq_of_lt (by unfold Word.count at hn; omega)
    refine ⟨_, verify_displaced h hn hlines (fun i _ hlt => hplace i hlt) hk hne, rfl, ?_⟩
    simp only [ChainError.reason, Mismatch.words, hnumber]
    rfl

/-- In a log of two lines the second one is left out and the first one written again. -/
theorem verify_rearranged_repeated :
    let hash : Hash := fun _ => text "h"
    let one := "\x7b\"seq\":1,\"prev_hash\":\"h\",\"hash\":\"h\"\x7d\n"
    let two := "\x7b\"seq\":2,\"prev_hash\":\"h\",\"hash\":\"h\"\x7d\n"
    verify hash (text one ++ text two) = .ok ⟨2, text "h"⟩ ∧
      ∃ e, verify hash (text one ++ text one) = .error e ∧ e.line = 2 ∧
        e.reason = text "sequence gap: expected 2, got 1" := by
  intro hash one two
  have hn : (records (text one ++ text two)).length < Word.count := by decide +kernel
  have hok : verify hash (text one ++ text two) = .ok ⟨2, text "h"⟩ := by decide +kernel
  let js : List (Fin (records (text one ++ text two)).length) := [⟨0, by decide +kernel⟩, ⟨0, by decide +kernel⟩]
  have hagain : records (text one ++ text one) = js.map (records (text one ++ text two)).get := by decide +kernel
  obtain ⟨-, -, hfirst⟩ := verify_rearranged hok hn js hagain
  obtain ⟨e, he, hline, hreason⟩ := hfirst 1 (by decide) (by decide) (by decide)
  exact ⟨hok, e, he, hline, hreason.trans (by decide +kernel)⟩

end Log

end AuditShell.Audit
