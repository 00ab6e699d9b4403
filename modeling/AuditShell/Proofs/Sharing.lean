import AuditShell.Proofs.Resume
import Mathlib.Data.List.Forall2
import Mathlib.Logic.Function.Basic
/-!
# Several writers of one log

Any number of writers are made on the same log and called in any order, and each call appends its
entry. `Shared.run_spec`: every entry stays, in the order of the calls. A writer counts from the last entry
that it has seen, the last one of the log when it was made and then its own (`numbered`), and the log is
accepted exactly if these numbers leave no gap, that is, if no writer is called behind another. Two
writers that are called once each are enough for a log that is not accepted (`Shared.run_breaks`).

What every turn keeps is `Shared.Sound`: the lines are entries, and each writer is at a number. As long as the
log is accepted, a writer that has seen all entries is at its end (`Shared.Current`). An entry that does not
continue the chain is found whatever is appended behind it.
-/
namespace AuditShell.Audit

/-! ## Turns -/

/-- A turn of one of several writers: it is made, or it is called. -/
inductive Turn (ω : Type) where
  | opens (w : ω)
  | logs (w : ω) (call : Call)

/-- A log file with its writers. -/
structure Shared (ω : Type) where
  content : Option Bytes := none
  writers : ω → Option Logger := fun _ => none

namespace Shared

variable {ω : Type} [DecidableEq ω]

/-- What a turn that succeeds leaves behind. -/
def turn (hash : Hash) (path : Bytes) (s : Shared ω) : Turn ω → Option (Shared ω)
  | .opens w =>
    match Logger.new MemoryLog.store hash path ⟨s.content, {}⟩ with
    | (.ok l, m) => some ⟨m.content, Function.update s.writers w (some l)⟩
    | (.error _, _) => none
  | .logs w call =>
    match s.writers w with
    | none => none
    | some l =>
      match l.log MemoryLog.store hash call.record call.now ⟨s.content, {}⟩ with
      | (.ok l, m) => some ⟨m.content, Function.update s.writers w (some l)⟩
      | (.error _, _) => none

/-- What a list of turns that all succeed leaves behind. -/
def run (hash : Hash) (path : Bytes) : Shared ω → List (Turn ω) → Option (Shared ω)
  | s, [] => some s
  | s, a :: ts => (s.turn hash path a).bind fun s => run hash path s ts

/-- The entries of the file. -/
def entries (s : Shared ω) : List Entry := Log.entries (s.content.getD [])

end Shared

section

variable {ω : Type} [DecidableEq ω]

/-- The calls with the numbers of their entries. A writer counts from the last entry that it has seen. -/
def numbered : (last : Nat) → (seen : ω → Nat) → List (Turn ω) → List (Call × Nat)
  | _, _, [] => []
  | last, seen, .opens w :: ts => numbered last (Function.update seen w last) ts
  | _, seen, .logs w call :: ts =>
    (call, seen w + 1) :: numbered (seen w + 1) (Function.update seen w (seen w + 1)) ts

end

/-- The first place where numbers do not count on from a number, with the number that is there. -/
def firstGap : (last : Nat) → List Nat → Option (Nat × Nat)
  | _, [] => none
  | last, n :: ns => if n = last + 1 then firstGap n ns else some (last + 1, n)

/-! ## What a turn does -/

namespace Log

variable {hash : Hash} {content : Bytes}

/-- Where all lines are entries, the log is resumed after the last one. -/
theorem resume_of_decoded (h : (records content).map Entry.decode = (entries content).map some) :
    resume hash content = some ((Chain.start hash).after (entries content)) := by
  have hlast := congrArg List.getLast? h
  rw [List.getLast?_map, List.getLast?_map] at hlast
  unfold resume
  rcases List.eq_nil_or_concat (entries content) with hnil | ⟨es, e, hes⟩
  · rw [hnil, List.getLast?_nil, Option.map_none, Option.map_eq_none_iff] at hlast
    rw [hlast, hnil]
    rfl
  · rw [List.concat_eq_append] at hes
    rw [hes, List.getLast?_concat, Option.map_some, Option.map_eq_some_iff] at hlast
    obtain ⟨l, hl, hd⟩ := hlast
    rw [hl, hes, Chain.after_concat]
    simp only [hd, Option.map_some]

/-- A line is appended: what was wrong with the log before stays, and otherwise the line is checked. -/
theorem verify_append_line {line : Bytes} (ht : Terminated content) (hl : 0x0A ∉ line ∧ line ≠ []) :
    verify hash (content ++ (line ++ [0x0A])) =
      match verify hash content with
      | .ok c => verifyFrom hash (1 + (records content).length) c [line]
      | .error e => .error e := by
  rw [verify, records_append_line ht hl, verifyFrom_append]
  rfl

end Log

namespace Shared

variable {ω : Type} {hash : Hash} {path : Bytes} {s s' u : Shared ω} {last : Nat} {seen : ω → Nat} {w : ω} {call : Call}

/-- What every turn keeps: the lines are entries, the last of which has a number, and each writer is at the
number of an entry that it has seen. -/
structure Sound (hash : Hash) (s : Shared ω) (last : Nat) (seen : ω → Nat) : Prop where
  terminated : Log.Terminated (s.content.getD [])
  decoded : (Log.records (s.content.getD [])).map Entry.decode = s.entries.map some
  seq : ((Chain.start hash).after s.entries).seq = last.toUInt64
  writers : ∀ w l, s.writers w = some l → l.chain.seq = (seen w).toUInt64

/-- What holds as long as the log is accepted: a writer that has seen all entries is at the end. -/
structure Current (hash : Hash) (s : Shared ω) (seen : ω → Nat) : Prop where
  followed : (Chain.start hash).Followed hash s.entries
  writers : ∀ w l, s.writers w = some l →
    seen w ≤ s.entries.length ∧ (seen w = s.entries.length → l.chain = (Chain.start hash).after s.entries)

theorem Current.verify (h : s.Sound hash last seen) (hc : s.Current hash seen) :
    Log.verify hash (s.content.getD []) = .ok ((Chain.start hash).after s.entries) :=
  Log.verify_eq_ok.2 ⟨h.decoded, hc.followed, rfl⟩

/-- An accepted log without writers is where a run can start. -/
theorem sound_start {content : Option Bytes} {c : Chain} (h : Log.verify hash (content.getD []) = .ok c)
    (ht : Log.Terminated (content.getD [])) :
    Sound (ω := ω) hash { content } (Log.entries (content.getD [])).length (fun _ => 0) ∧
      Current (ω := ω) hash { content } fun _ => 0 := by
  obtain ⟨hdecoded, hfollowed, -⟩ := Log.verify_eq_ok.1 h
  refine ⟨⟨ht, hdecoded, ?_, fun w l hw => by cases hw⟩, hfollowed, fun w l hw => by cases hw⟩
  have hseq := hfollowed.seq_after
  rwa [show (Chain.start hash).seq = 0 from rfl, UInt64.zero_add] at hseq

variable [DecidableEq ω]

theorem update_cases {f : ω → Option Logger} {l l' : Logger} {w' : ω} (h : Function.update f w (some l) w' = some l') :
    w' = w ∧ l' = l ∨ w' ≠ w ∧ f w' = some l' := by
  by_cases heq : w' = w
  · subst heq
    rw [Function.update_self] at h
    cases h
    exact .inl ⟨rfl, rfl⟩
  · rw [Function.update_of_ne heq] at h
    exact .inr ⟨heq, h⟩

/-- A writer is made at the last entry, and the file stays as it is. -/
structure Opens (hash : Hash) (s : Shared ω) (w : ω) (s' : Shared ω) : Prop where
  content : s'.content = s.content
  writers : ∃ l, l.chain = (Chain.start hash).after s.entries ∧ s'.writers = Function.update s.writers w (some l)

/-- The writer of a call appends one entry, which is checked where the log was accepted before. -/
structure Appends (hash : Hash) (s : Shared ω) (w : ω) (call : Call) (s' : Shared ω) (l : Logger) (e : Entry) :
    Prop where
  writer : s.writers w = some l
  linked : e = (l.chain.link hash (.ofRecord call.record call.now)).repair
  content : ∃ t, s'.content = some (s.content.getD [] ++ (t ++ [0x0A])) ∧ (0x0A ∉ t ∧ t ≠ []) ∧ Entry.decode t = some e
  writers : ∃ l', l'.chain = .advance (l.chain.link hash (.ofRecord call.record call.now)) ∧
    s'.writers = Function.update s.writers w (some l')

theorem Sound.turn_opens (h : s.Sound hash last seen) (hturn : s.turn hash path (.opens w) = some s') :
    Opens hash s w s' := by
  have hresume : Log.resume hash (s.content.getD []) = some _ := Log.resume_of_decoded h.decoded
  have hnew := Session.new_of_resume hresume path {}
  simp only [turn, hnew, if_false, Bool.false_eq_true, Option.some.injEq] at hturn
  subst hturn
  exact ⟨rfl, _, rfl, rfl⟩

theorem turn_logs (hturn : s.turn hash path (.logs w call) = some s') : ∃ l e, Appends hash s w call s' l e := by
  cases hw : s.writers w with
  | none => simp [turn, hw] at hturn
  | some l =>
    obtain ⟨result, m, hr⟩ : ∃ result m,
        l.log MemoryLog.store hash call.record call.now ⟨s.content, {}⟩ = (result, m) := ⟨_, _, rfl⟩
    rcases Session.log_cases hr with ⟨e, rfl, -⟩ | ⟨t, ht, rfl, hm⟩
    · simp [turn, hw, hr] at hturn
    · simp only [turn, hw, hr, hm, Option.some.injEq] at hturn
      subst hturn
      have hfits := Session.fits_link hash l.chain call
      exact ⟨l, _, hw, rfl, ⟨t, rfl, Entry.encode_line hfits.duration ht, Entry.decode_encode hfits ht⟩, _, rfl, rfl⟩

namespace Opens

theorem entries (h : Opens hash s w s') : s'.entries = s.entries := by
  rw [Shared.entries, h.content]
  rfl

theorem sound (h : Opens hash s w s') (hs : s.Sound hash last seen) :
    s'.Sound hash last (Function.update seen w last) := by
  obtain ⟨l, hl, hwriters⟩ := h.writers
  refine ⟨h.content ▸ hs.terminated, ?_, h.entries ▸ hs.seq, fun w' l' hw' => ?_⟩
  · rw [h.content, h.entries]
    exact hs.decoded
  · rw [hwriters] at hw'
    rcases update_cases hw' with ⟨rfl, rfl⟩ | ⟨hne, hw'⟩
    · rw [Function.update_self, hl]
      exact hs.seq
    · rw [Function.update_of_ne hne]
      exact hs.writers w' l' hw'

theorem current (h : Opens hash s w s') (hc : s.Current hash seen) :
    s'.Current hash (Function.update seen w s.entries.length) := by
  obtain ⟨l, hl, hwriters⟩ := h.writers
  refine ⟨h.entries ▸ hc.followed, fun w' l' hw' => ?_⟩
  rw [hwriters] at hw'
  rw [h.entries]
  rcases update_cases hw' with ⟨rfl, rfl⟩ | ⟨hne, hw'⟩
  · rw [Function.update_self]
    exact ⟨Nat.le_refl _, fun _ => hl⟩
  · rw [Function.update_of_ne hne]
    exact hc.writers w' l' hw'

end Opens

namespace Appends

variable {l : Logger} {e : Entry}

theorem recorded (h : Appends hash s w call s' l e) (hs : s.Sound hash last seen) : call.Recorded (seen w + 1) e :=
  h.linked ▸ Session.recorded_link hash l.chain call (hs.writers w l h.writer)

theorem entries (h : Appends hash s w call s' l e) (hs : s.Sound hash last seen) : s'.entries = s.entries ++ [e] := by
  obtain ⟨t, hcontent, hline, hdecode⟩ := h.content
  rw [Shared.entries, hcontent]
  exact Log.entries_append_line hs.terminated hline hdecode

theorem sound (h : Appends hash s w call s' l e) (hs : s.Sound hash last seen) :
    s'.Sound hash (seen w + 1) (Function.update seen w (seen w + 1)) := by
  have hrecorded := h.recorded hs
  obtain ⟨t, hcontent, hline, hdecode⟩ := h.content
  obtain ⟨l', hl', hwriters⟩ := h.writers
  refine ⟨?_, ?_, ?_, fun w' k hw' => ?_⟩
  · rw [hcontent]
    exact .inr ⟨s.content.getD [] ++ t, (List.append_assoc _ _ _).symm⟩
  · rw [h.entries hs, hcontent, Option.getD_some, Log.records_append_line hs.terminated hline, List.map_append,
      List.map_append, hs.decoded, List.map_singleton, hdecode]
    rfl
  · rw [h.entries hs, Chain.after_concat]
    exact hrecorded.seq
  · rw [hwriters] at hw'
    rcases update_cases hw' with ⟨rfl, rfl⟩ | ⟨hne, hw'⟩
    · rw [Function.update_self, hl', ← hrecorded.seq, h.linked]
      rfl
    · rw [Function.update_of_ne hne]
      exact hs.writers w' k hw'

/-- What was wrong with the log before stays wrong. -/
theorem verify_error (h : Appends hash s w call s' l e) (hs : s.Sound hash last seen) {f : ChainError}
    (hf : Log.verify hash (s.content.getD []) = .error f) : Log.verify hash (s'.content.getD []) = .error f := by
  obtain ⟨t, hcontent, hline, -⟩ := h.content
  rw [hcontent, Option.getD_some, Log.verify_append_line hs.terminated hline, hf]

theorem verify_mismatch (h : Appends hash s w call s' l e) (hs : s.Sound hash last seen) {c : Chain} {m : Mismatch}
    (hc : Log.verify hash (s.content.getD []) = .ok c) (hm : c.check hash e = some m) :
    Log.verify hash (s'.content.getD []) = .error ⟨s.entries.length + 1, some m⟩ := by
  have hlength : (Log.records (s.content.getD [])).length = s.entries.length := by
    simpa using congrArg List.length hs.decoded
  obtain ⟨t, hcontent, hline, hdecode⟩ := h.content
  rw [hcontent, Option.getD_some, Log.verify_append_line hs.terminated hline, hc, hlength, Nat.add_comm 1]
  simp only [Log.verifyFrom, hdecode, hm]

/-- A writer that has seen all entries continues the chain, and the others have now missed one. -/
theorem current (h : Appends hash s w call s' l e) (hl : hash.Legible) (hs : s.Sound hash last seen)
    (hc : s.Current hash seen) (hseen : seen w = s.entries.length) :
    s'.Current hash (Function.update seen w (seen w + 1)) := by
  obtain ⟨l', hl', hwriters⟩ := h.writers
  have hchain : l.chain = (Chain.start hash).after s.entries := (hc.writers w l h.writer).2 hseen
  have hcheck : ((Chain.start hash).after s.entries).check hash e = none := by
    rw [h.linked, hchain]
    exact Chain.check_repair_link hl (hc.followed.legible hl) _
  refine ⟨?_, fun w' k hw' => ?_⟩
  · rw [h.entries hs, Chain.followed_concat]
    exact ⟨hc.followed, hcheck⟩
  · rw [hwriters] at hw'
    rw [h.entries hs, Chain.after_concat, List.length_append, List.length_singleton]
    rcases update_cases hw' with ⟨rfl, rfl⟩ | ⟨hne, hw'⟩
    · rw [Function.update_self, hl', h.linked, Chain.advance_repair_link hl]
      exact ⟨by omega, fun _ => rfl⟩
    · rw [Function.update_of_ne hne]
      have hle := (hc.writers w' k hw').1
      exact ⟨by omega, fun h => by omega⟩

/-- The number of a writer that is behind is not the next one. -/
theorem check_behind (h : Appends hash s w call s' l e) (hs : s.Sound hash s.entries.length seen)
    (hseen : seen w < s.entries.length) (hcount : s.entries.length + 1 < Word.count) :
    ((Chain.start hash).after s.entries).check hash e =
      some (.sequence (s.entries.length + 1).toUInt64 (seen w + 1).toUInt64) := by
  have hnext : ((Chain.start hash).after s.entries).seq + 1 = (s.entries.length + 1).toUInt64 := by
    rw [hs.seq]
    exact (UInt64.ofNat_add s.entries.length 1).symm
  have hne : (seen w + 1).toUInt64 ≠ (s.entries.length + 1).toUInt64 := by
    intro heq
    have hnat := congrArg UInt64.toNat heq
    change (seen w + 1) % Word.count = (s.entries.length + 1) % Word.count at hnat
    rw [Nat.mod_eq_of_lt hcount, Nat.mod_eq_of_lt (by omega)] at hnat
    omega
  rw [Chain.check, (h.recorded hs).seq, hnext, if_pos hne]

end Appends

/-! ## Runs -/

/-- Every call leaves its entry behind, and what was wrong with the log stays wrong. -/
theorem Sound.run (hs : s.Sound hash last seen) {ts : List (Turn ω)} (hrun : run hash path s ts = some u) :
    (∃ new, u.entries = s.entries ++ new ∧ List.Forall₂ (fun x e => x.1.Recorded x.2 e) (numbered last seen ts) new) ∧
      ∀ f, Log.verify hash (s.content.getD []) = .error f → Log.verify hash (u.content.getD []) = .error f := by
  induction ts generalizing s last seen with
  | nil =>
    cases hrun
    exact ⟨⟨[], (List.append_nil _).symm, .nil⟩, fun f hf => hf⟩
  | cons a ts ih =>
    obtain ⟨s', hturn, hrest⟩ := Option.bind_eq_some_iff.1 hrun
    cases a with
    | opens w =>
      have h := hs.turn_opens hturn
      obtain ⟨hnew, herror⟩ := ih (h.sound hs) hrest
      rw [h.entries, h.content] at *
      exact ⟨hnew, herror⟩
    | logs w call =>
      obtain ⟨l, e, h⟩ := turn_logs hturn
      obtain ⟨⟨new, hentries, hnew⟩, herror⟩ := ih (h.sound hs) hrest
      refine ⟨⟨e :: new, ?_, .cons (h.recorded hs) hnew⟩, fun f hf => herror f (h.verify_error hs hf)⟩
      rw [hentries, h.entries hs, List.append_assoc, List.singleton_append]

/-- An accepted log stays accepted as long as the numbers count on, and the first that does not is what is
found wrong with it. -/
theorem Current.run (hl : hash.Legible) (hs : s.Sound hash s.entries.length seen) (hc : s.Current hash seen)
    {ts : List (Turn ω)} (hrun : run hash path s ts = some u) :
    (firstGap s.entries.length ((numbered s.entries.length seen ts).map (·.2)) = none →
      ∃ c, Log.verify hash (u.content.getD []) = .ok c) ∧
    ∀ n k, firstGap s.entries.length ((numbered s.entries.length seen ts).map (·.2)) = some (n, k) →
      s.entries.length + (numbered s.entries.length seen ts).length < Word.count →
      Log.verify hash (u.content.getD []) = .error ⟨n, some (.sequence n.toUInt64 k.toUInt64)⟩ := by
  induction ts generalizing s seen with
  | nil =>
    cases hrun
    exact ⟨fun _ => ⟨_, hc.verify hs⟩, by rintro n k ⟨⟩⟩
  | cons a ts ih =>
    obtain ⟨s', hturn, hrest⟩ := Option.bind_eq_some_iff.1 hrun
    cases a with
    | opens w =>
      have h := hs.turn_opens hturn
      have hnext := ih (s := s') (by rw [h.entries]; exact h.sound hs) (h.current hc) hrest
      rwa [h.entries] at hnext
    | logs w call =>
      obtain ⟨l, e, h⟩ := turn_logs hturn
      have hlength : s'.entries.length = s.entries.length + 1 := by rw [h.entries hs, List.length_append]; rfl
      rw [numbered, List.map_cons, firstGap, List.length_cons]
      rcases Nat.lt_or_eq_of_le (hc.writers w l h.writer).1 with hbehind | hseen
      · rw [if_neg (by omega)]
        refine ⟨by rintro ⟨⟩, ?_⟩
        rintro n k ⟨⟩ hcount
        exact ((h.sound hs).run hrest).2 _ (h.verify_mismatch hs (hc.verify hs) (h.check_behind hs hbehind (by omega)))
      · have hnext := ih (s := s') (by rw [hlength, ← hseen]; exact h.sound hs) (h.current hl hs hc hseen) hrest
        rw [hlength, hseen] at hnext
        rw [if_pos (by rw [hseen]), hseen]
        exact ⟨hnext.1, fun n k hgap hcount => hnext.2 n k hgap (by omega)⟩

/-- Turns of several writers on an accepted log whose last line is complete, or on a missing one. After them
the log has the old entries and one for each call, in the order of the calls. It is accepted if each
number is the next one, and as far as a number of 64 bits can count, the first that is not is found wrong. -/
theorem run_spec {digest : Bytes → Bytes} {content : Option Bytes} {c : Chain} {ts : List (Turn ω)}
    (h : Log.verify (.hexadecimal digest) (content.getD []) = .ok c) (ht : Log.Terminated (content.getD []))
    (hrun : run (.hexadecimal digest) path { content } ts = some u) :
    let old := Log.entries (content.getD [])
    let calls := numbered old.length (fun _ => 0) ts
    ∃ new, List.Forall₂ (fun x e => x.1.Recorded x.2 e) calls new ∧ (new ≠ [] → u.content.isSome) ∧
      ∀ after, u.content = some after →
        Log.tailAt MemoryLog.store path 0 ⟨some after, {}⟩ = .ok (old ++ new) ∧
        (firstGap old.length (calls.map (·.2)) = none →
          Log.verifyAt MemoryLog.store (.hexadecimal digest) path ⟨some after, {}⟩ = none) ∧
        ∀ n k, firstGap old.length (calls.map (·.2)) = some (n, k) → old.length + calls.length < Word.count →
          Log.verifyAt MemoryLog.store (.hexadecimal digest) path ⟨some after, {}⟩ =
            some (.chain ⟨n, some (.sequence n.toUInt64 k.toUInt64)⟩) := by
  intro old calls
  obtain ⟨hs, hc⟩ := sound_start (ω := ω) h ht
  obtain ⟨⟨new, hentries, hnew⟩, -⟩ := hs.run hrun
  obtain ⟨hnone, hgap⟩ := hc.run (Hash.hexadecimal_legible digest) hs hrun
  refine ⟨new, hnew, fun hne => ?_, fun after hafter => ?_⟩
  · rw [Option.isSome_iff_ne_none]
    intro hcontent
    rw [entries, hcontent, Option.getD_none, eq_comm] at hentries
    exact hne (List.append_eq_nil_iff.1 hentries).2
  · rw [entries, hafter, Option.getD_some] at hentries
    rw [hafter, Option.getD_some] at hnone hgap
    refine ⟨?_, fun h => Log.verifyAt_eq_none.2 (hnone h), fun n k h hcount => ?_⟩
    · rw [Log.tailAt_zero, hentries]
      rfl
    · simp [Log.verifyAt, MemoryLog.store, hgap n k h hcount]

/-- Two writers take turns, each made after the last call of the other. -/
theorem run_spec_in_turn :
    let hash := Hash.hexadecimal (List.take 1)
    ∃ (u : Shared Bool) (after : Bytes),
      run hash [] {} [.opens true, .logs true Session.probe, .opens false, .logs false Session.probe] = some u ∧
        u.content = some after ∧ Log.verifyAt MemoryLog.store hash [] ⟨some after, {}⟩ = none := by
  intro hash
  have hsome : (run (ω := Bool) hash [] {}
      [.opens true, .logs true Session.probe, .opens false, .logs false Session.probe]).isSome = true := by
    decide +kernel
  obtain ⟨u, hu⟩ := Option.isSome_iff_exists.1 hsome
  have hmissing : Log.verify hash ((none : Option Bytes).getD []) = .ok (.start hash) := rfl
  obtain ⟨new, hnew, hfile, hafter⟩ := run_spec hmissing (.inl rfl) hu
  have hne : new ≠ [] := by
    rintro rfl
    cases hnew
  obtain ⟨after, hcontent⟩ := Option.isSome_iff_exists.1 (hfile hne)
  exact ⟨u, after, hu, hcontent, (hafter after hcontent).2.1 (by decide)⟩

/-- Two writers made on a missing log, and a call of each. -/
def rivals : List (Turn Bool) := [.opens true, .opens false, .logs true Session.probe, .logs false Session.probe]

theorem run_rivals_isSome (hash : Hash) (path : Bytes) : (run hash path {} rivals).isSome := by
  obtain ⟨t, ht⟩ := Session.encode_probe hash (.start hash)
  simp [rivals, run, turn, Logger.new, Logger.log, MemoryLog.store, OsError.isMissing, ht]

theorem run_rivals (hl : hash.Legible) (path : Bytes) :
    ∃ (u : Shared Bool) (after : Bytes) (e f : Entry), run hash path {} rivals = some u ∧ u.content = some after ∧
      Log.tailAt MemoryLog.store path 0 ⟨some after, {}⟩ = .ok [e, f] ∧
      Log.verifyAt MemoryLog.store hash path ⟨some after, {}⟩ = some (.chain ⟨2, some (.sequence 2 1)⟩) := by
  obtain ⟨u, hu⟩ := Option.isSome_iff_exists.1 (run_rivals_isSome hash path)
  have hmissing : Log.verify hash ((none : Option Bytes).getD []) = .ok (.start hash) := rfl
  obtain ⟨hs, hc⟩ := sound_start (ω := Bool) hmissing (.inl rfl)
  obtain ⟨⟨new, hentries, hnew⟩, -⟩ := hs.run hu
  obtain ⟨e, f, rfl⟩ := List.length_eq_two.1 hnew.length_eq.symm
  have hverify := (hc.run hl hs hu).2 2 1 rfl (by decide)
  cases hcontent : u.content with
  | none =>
    rw [entries, hcontent] at hentries
    cases hentries
  | some after =>
    rw [entries, hcontent, Option.getD_some] at hentries
    rw [hcontent, Option.getD_some] at hverify
    refine ⟨u, after, e, f, hu, hcontent, ?_, ?_⟩
    · rw [Log.tailAt_zero, hentries]
      rfl
    · simp [Log.verifyAt, MemoryLog.store, hverify]

/-- Two writers that are made on a missing log and called once each. Both calls succeed and both entries are
there, but the log is not accepted: both are numbered one. -/
theorem run_breaks :
    ∃ (u : Shared Bool) (after : Bytes) (e f : Entry), run sha256 [] {} rivals = some u ∧ u.content = some after ∧
      Log.tailAt MemoryLog.store [] 0 ⟨some after, {}⟩ = .ok [e, f] ∧
      Log.verifyAt MemoryLog.store sha256 [] ⟨some after, {}⟩ = some (.chain ⟨2, some (.sequence 2 1)⟩) := by
  obtain ⟨digest, h⟩ := sha256_hexadecimal
  rw [h]
  exact run_rivals (Hash.hexadecimal_legible digest) []

end Shared

end AuditShell.Audit
