import AuditShell.Audit.Log
/-!
# Entries along a chain

`Chain.Followed`: each of the entries follows the one before it. Checking a log means that all its
lines are entries and that these follow the start of the chain (`Log.verify_eq_ok`). The number of
an entry counts the entries up to it, as far as a number of 64 bits can.
-/

namespace AuditShell.Audit

namespace Chain

variable {hash : Hash} {c : Chain}

theorem check_eq_none {e : Entry} :
    c.check hash e = none ↔ e.seq = c.seq + 1 ∧ e.prevHash = c.head ∧ e.hash = digest hash e := by
  unfold check
  by_cases hseq : e.seq = c.seq + 1
  · by_cases hprev : e.prevHash = c.head
    · by_cases hdigest : e.hash = digest hash e <;> simp [hseq, hprev, hdigest]
    · simp [hseq, hprev]
  · simp [hseq]

/-- Each entry follows the one before it, and the first one follows a position. -/
def Followed (hash : Hash) : Chain → List Entry → Prop
  | _, [] => True
  | c, e :: es => c.check hash e = none ∧ Followed hash (.advance e) es

/-- The position after entries that follow a position. -/
def after (c : Chain) (es : List Entry) : Chain := es.foldl (fun _ e => .advance e) c

@[simp] theorem after_nil : c.after [] = c := rfl

@[simp] theorem after_cons (e : Entry) (es : List Entry) : c.after (e :: es) = (advance e).after es := rfl

@[simp] theorem after_concat (es : List Entry) (e : Entry) : c.after (es ++ [e]) = advance e := by
  simp [after]

theorem followed_append {es fs : List Entry} :
    Followed hash c (es ++ fs) ↔ Followed hash c es ∧ Followed hash (c.after es) fs := by
  induction es generalizing c with
  | nil => exact ⟨fun h => ⟨trivial, h⟩, And.right⟩
  | cons e es ih =>
    rw [List.cons_append, Followed, ih, Followed, after_cons, and_assoc]

theorem followed_concat {es : List Entry} {e : Entry} :
    Followed hash c (es ++ [e]) ↔ Followed hash c es ∧ (c.after es).check hash e = none := by
  rw [followed_append, Followed, Followed, and_true]

theorem Followed.seq_after {es : List Entry} (h : Followed hash c es) :
    (c.after es).seq = c.seq + es.length.toUInt64 := by
  induction es generalizing c with
  | nil => exact (UInt64.add_zero c.seq).symm
  | cons e es ih =>
    rw [after_cons, ih h.2, List.length_cons]
    change e.seq + _ = _
    rw [(check_eq_none.1 h.1).1, UInt64.add_assoc, UInt64.add_comm 1]
    exact congrArg (c.seq + ·) (UInt64.ofNat_add es.length 1).symm

end Chain

namespace Log

variable {hash : Hash}

/-- Following the chain through lines means that they are entries which follow the position. -/
theorem verifyFrom_eq_ok {n : Nat} {c c' : Chain} {ls : List Bytes} :
    verifyFrom hash n c ls = .ok c' ↔
      ∃ es, ls.map Entry.decode = es.map some ∧ c.Followed hash es ∧ c' = c.after es := by
  induction ls generalizing n c with
  | nil =>
    constructor
    · rintro ⟨⟩
      exact ⟨[], rfl, trivial, rfl⟩
    · rintro ⟨es, hes, -, rfl⟩
      rw [List.map_nil, eq_comm, List.map_eq_nil_iff] at hes
      rw [hes]
      rfl
  | cons l ls ih =>
    rw [verifyFrom]
    constructor
    · intro h
      cases hd : Entry.decode l with
      | none => simp [hd] at h
      | some e =>
        cases hc : c.check hash e with
        | some m => simp [hd, hc] at h
        | none =>
          simp only [hd, hc] at h
          obtain ⟨es, hes, hf, rfl⟩ := ih.1 h
          exact ⟨e :: es, by simp [hd, hes], ⟨hc, hf⟩, rfl⟩
    · rintro ⟨es, hes, hf, rfl⟩
      cases es with
      | nil => cases hes
      | cons e es =>
        rw [List.map_cons, List.map_cons, List.cons.injEq] at hes
        simp only [hes.1, hf.1]
        exact ih.2 ⟨es, hes.2, hf.2, rfl⟩

theorem filterMap_decode {ls : List Bytes} {es : List Entry} (h : ls.map Entry.decode = es.map some) :
    ls.filterMap Entry.decode = es := by
  calc ls.filterMap Entry.decode = (ls.map Entry.decode).filterMap id := by rw [List.filterMap_map]; rfl
    _ = (es.map some).filterMap id := by rw [h]
    _ = es := by simp

/-- A log is accepted if and only if its lines are entries that follow the start of the chain. -/
theorem verify_eq_ok {content : Bytes} {c : Chain} :
    verify hash content = .ok c ↔
      (records content).map Entry.decode = (entries content).map some ∧
        (Chain.start hash).Followed hash (entries content) ∧ c = (Chain.start hash).after (entries content) := by
  rw [verify, verifyFrom_eq_ok]
  constructor
  · rintro ⟨es, hes, h⟩
    rw [entries, filterMap_decode hes]
    exact ⟨hes, h⟩
  · exact fun h => ⟨_, h⟩

end Log

end AuditShell.Audit
