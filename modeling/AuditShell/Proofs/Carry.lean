import AuditShell.Proofs.Delivery
/-!
# Signals that outlive their pipeline

The slot is emptied once for a line, and not between its pipelines. A signal that no wait of a pipeline takes, or
that the last wait gives back because its process had ended, stays in the slot, and can end a wait of a later
pipeline. This is the only way in which a pipeline is hit by a signal of an earlier one (`late_hit_iff`).
-/

namespace AuditShell

variable {σ : Type} {set : Settings}

/-- Of the first `n` signals none is left that could hit a pipeline after the first `k`. -/
structure Moment.Since (n k : Nat) (x : Moment σ) : Prop where
  begun : k ≤ x.account.begun
  delivered : n ≤ x.account.delivered.length
  loose : ∀ d, x.phase.hand? = some d ∨ x.account.slot = some d → n ≤ d.number
  hits : ∀ h ∈ x.account.hits, k < h.pipeline → n ≤ h.delivery.number

theorem Step.since {n k : Nat} {x y : Moment σ} (h : Step set x y) (hx : x.Since n k)
    (hdrained : ∀ i, x.phase ≠ .draining i) : y.Since n k := by
  -- what comes into the slot is newer than the first `n`, or comes out of a hand
  cases h with
  | @sent phase s a sig =>
    rw [Shell.send_delivered]
    cases (s.interrupts.send sig).1 with
    | false => exact ⟨hx.begun, hx.delivered, hx.loose, hx.hits⟩
    | true =>
      refine ⟨hx.begun, ?_, ?_, hx.hits⟩
      · have hdelivered := hx.delivered
        simp only [Account.sent, if_true, List.length_append, List.length_singleton]
        exact Nat.le_succ_of_le hdelivered
      · rintro d (hd | hd)
        · exact hx.loose d (.inl hd)
        · cases hd
          exact hx.delivered
  | drop => exact absurd rfl (hdrained _)
  | drained => exact absurd rfl (hdrained _)
  | start line =>
    refine ⟨Nat.le_succ_of_le hx.begun, hx.delivered, ?_, hx.hits⟩
    rintro d (hd | hd)
    · cases hd
    · exact hx.loose d (.inr hd)
  | ended r => cases r <;> exact ⟨hx.begun, hx.delivered, hx.loose, hx.hits⟩
  | take d hs ha =>
    refine ⟨hx.begun, hx.delivered, ?_, hx.hits⟩
    rintro e (he | he)
    · cases he
      exact hx.loose d (.inr ha)
    · cases he
  | @giveBack s a d r =>
    refine ⟨by simpa using hx.begun, by simpa using hx.delivered, ?_, by simpa using hx.hits⟩
    rintro e (he | he)
    · simp at he
    · cases hsend : (s.send d.signal).1 with
      | false =>
        rw [hsend] at he
        exact hx.loose e (.inr he)
      | true =>
        rw [hsend] at he
        cases he
        exact hx.loose d (.inl rfl)
  | @interrupt s a process d =>
    refine ⟨hx.begun, hx.delivered, ?_, ?_⟩
    · rintro e (he | he)
      · cases he
      · exact hx.loose e (.inr he)
    · intro hit hhit hlater
      rcases List.mem_append.1 hhit with hhit | hhit
      · exact hx.hits hit hhit hlater
      · cases List.mem_singleton.1 hhit
        exact hx.loose d (.inl rfl)
  | finish hphase =>
    refine ⟨hx.begun, hx.delivered, ?_, hx.hits⟩
    rintro d (hd | hd)
    · cases hd
    · exact hx.loose d (.inr hd)
  | _ => exact ⟨hx.begun, hx.delivered, hx.loose, hx.hits⟩

theorem Steps.since {n k : Nat} {base : List Event} {x y : Moment σ} (h : Steps set x y) (hx : x.Since n k)
    (haccounted : x.Accounted base) : y.Since n k := by
  induction h with
  | refl => exact hx
  | @tail z w hsteps hstep ih => exact hstep.since ih (Steps.accounted hsteps haccounted).drained

theorem Moment.Accounted.number_lt {base : List Event} {x : Moment σ} (h : x.Accounted base) {d : Delivery}
    (hd : d ∈ x.account.delivered) : d.number < x.account.delivered.length := by
  have hnumber := List.mem_map_of_mem (f := Delivery.number) hd
  rw [h.numbered] at hnumber
  exact List.mem_range.1 hnumber

/-- Between two pipelines with an empty slot nothing of the signals so far is left. -/
theorem Moment.Accounted.since {base : List Event} {x : Moment σ} (h : x.Accounted base) (hphase : x.phase = .between)
    (hslot : x.account.slot = none) : x.Since x.account.delivered.length x.account.begun where
  begun := Nat.le_refl _
  delivered := Nat.le_refl _
  loose := by
    rintro d (hd | hd)
    · rw [hphase] at hd
      cases hd
    · rw [hslot] at hd
      cases hd
  hits hit hhit hlater := absurd (h.begun hit hhit).2 (Nat.not_le_of_lt hlater)

/-- A signal in the slot can end the first wait of the next pipeline. -/
theorem Moment.Accounted.hit_next {base : List Event} {x : Moment σ} (h : x.Accounted base)
    (hphase : x.phase = .between) {d : Delivery} (hslot : x.account.slot = some d) (line : Bytes) (process : Nat) :
    ∃ y, Steps set x y ∧ y.shell.journal = x.shell.journal ++ [.pipeline line, .interrupt d.signal process] ∧
      y.account.hits = x.account.hits ++ [⟨d, x.account.begun + 1, some d⟩] := by
  have hpending : x.shell.interrupts.pending? = some d.signal := by
    have hsynced := h.synced
    unfold Moment.Synced at hsynced
    rw [hsynced, hslot]
    rfl
  obtain ⟨phase, s, a⟩ := x
  cases hphase
  have hstart : Step set (⟨.between, s, a⟩ : Moment σ) _ := .start line
  have hwait := (Relation.ReflTransGen.single hstart).tail (.wait process)
  have htake := hwait.tail (.take d hpending hslot)
  refine ⟨_, htake.tail .interrupt, ?_, ?_⟩
  · simp [Shell.note]
  · dsimp only [Account.hit, Account.start]
    rw [hslot]

/-- When a line stands between two pipelines, a signal that was sent so far can still hit a later pipeline if and
only if the slot is full. Whenever a pipeline is hit, its signal was sent while it ran, or was in the slot when it
was started, and it hits no other pipeline. -/
theorem late_hit_iff (s : Shell σ) (x : Moment σ) (hx : Steps set (.start s) x) (hphase : x.phase = .between) :
    ((∃ y, Steps set x y ∧ ∃ h ∈ y.account.hits, x.account.begun < h.pipeline ∧ h.delivery ∈ x.account.delivered) ↔
      x.account.slot.isSome) ∧
    ∀ y, Steps set x y → (y.account.hits.map Hit.delivery).Nodup ∧
      ∀ h ∈ y.account.hits, h.delivery.during = some h.pipeline ∨ h.atStart = some h.delivery := by
  obtain ⟨t, ht, -, hsince⟩ : ∃ t : Shell σ, t.interrupts.pending? = none ∧ Steps set (.start s) ⟨.ready, t, {}⟩ ∧
      Steps set ⟨.ready, t, {}⟩ x := by
    rcases hx.from_ready with ⟨k, hk⟩ | hready
    · rw [hphase] at hk
      cases hk
    · exact hready
  have haccounted := hsince.accounted (Moment.accounted_ready t ht)
  refine ⟨⟨?_, ?_⟩, ?_⟩
  · -- a signal of a later hit has a number that none of those so far has
    rintro ⟨y, hsteps, h, hh, hlater, hsent⟩
    by_contra hempty
    have hslot : x.account.slot = none := Option.not_isSome_iff_eq_none.1 hempty
    have hnumber := (hsteps.since (haccounted.since hphase hslot) haccounted).hits h hh hlater
    exact absurd (haccounted.number_lt hsent) (Nat.not_lt_of_le hnumber)
  · intro hfull
    obtain ⟨d, hslot⟩ := Option.isSome_iff_exists.1 hfull
    obtain ⟨y, hsteps, -, hhits⟩ := haccounted.hit_next hphase hslot [] 0
    have hsent : d ∈ x.account.delivered := haccounted.conserved.mem_iff.2 (by simp [hslot])
    refine ⟨y, hsteps, ⟨d, x.account.begun + 1, some d⟩, ?_, Nat.lt_succ_self _, hsent⟩
    rw [hhits]
    exact List.mem_append_right _ (List.mem_singleton_self _)
  · intro y hsteps
    have hy := hsteps.accounted haccounted
    exact ⟨hy.nodup_hits, hy.source⟩

/-- A signal that is taken in the moment in which the only process of a pipeline ends is given back. It can then
end a wait of the next pipeline. -/
theorem late_hit_iff_raced :
    ∃ x y : Moment Unit, Steps {} (.start { world := () }) x ∧ x.phase = .between ∧ x.account.begun = 1 ∧
      Steps {} x y ∧ ∃ h ∈ y.account.hits, 1 < h.pipeline ∧ h.delivery.during = some 1 := by
  have hclear : Steps {} (.start ({ world := () } : Shell Unit)) _ := .tail (.single (.drained rfl)) .clear
  have hwait := (hclear.tail (.start [])).tail (.wait 0)
  have htake := (hwait.tail (.sent .interrupt)).tail (.take ⟨.interrupt, 0, some 1⟩ rfl rfl)
  have hback := (htake.tail (.found (.ok (.code 0)))).tail .giveBack
  have hx := hback.tail (.finish (.inl rfl))
  obtain ⟨y, hy, h, hh, hlater, hsent⟩ := (late_hit_iff _ _ hx rfl).1.2 rfl
  refine ⟨_, y, hx, rfl, rfl, hy, h, hh, hlater, ?_⟩
  rw [List.mem_singleton.1 hsent]
  rfl

/-- The machine on which a process runs until a signal can be taken, or ends where there is none. -/
def Machine.listening : Machine Unit :=
  { Machine.idle Unit with
    wake := fun _ pending _ w => match pending with
      | some _ => (.signal none, w)
      | none => (.exit (.ok (.code 0)), w) }

/-- A builtin that sends an interrupt and then finds that it was used wrongly. -/
def Builtin.sender : Builtin :=
  ⟨text "bad", [], fun _ => .send .interrupt fun _ => .finish (some (.usage (text "bad") (text "wrong")))⟩

/-- An interrupt that is sent while the first pipeline of `a | bad; b` runs leaves the slot only when the second
pipeline waits: this one is killed, and its code is 130. -/
theorem execute_late_signal :
    let set : Settings := { registry := Registry.empty.register .sender }
    let first : Pipeline := [⟨[text "a"], []⟩, ⟨[text "bad"], []⟩]
    let second : Pipeline := [⟨[text "b"], []⟩]
    let run := execute .listening set (.sequence [Stages.ofPipeline first, Stages.ofPipeline second]) { world := () }
    run.1 = .returned (some ⟨[], [], 130⟩) none ∧
      run.2.journal =
        [.pipeline (Pipeline.render first), .piped 0, .spawned 1 ⟨[text "a"], .shell, .pipe 0, .err⟩, .writerClosed 0,
          .builtin (text "bad") [], .sent .interrupt true, .readerClosed 0, .waited 1,
          .builtinFailed (.usage (text "bad") (text "wrong")),
          .pipeline (Pipeline.render second), .spawned 2 ⟨[text "b"], .shell, .line, .err⟩, .interrupt .interrupt 2,
          .waited 2, .pipelineInterrupted (.interrupted (some .interrupt))] := by
  decide +kernel

end AuditShell
