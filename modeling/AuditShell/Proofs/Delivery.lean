import AuditShell.Proofs.Exit
import AuditShell.Proofs.Steps
import Mathlib.Data.List.Perm.Subperm
import Mathlib.Data.List.Nodup
/-!
# Signals are neither doubled nor lost

Each signal that the slot of a line takes up after those of earlier lines were dropped is in one place: it is
in the slot, a wait has it in hand, it has ended one wait, or it was given back while another one was in the slot
(`Moment.Accounted`). So no more waits are ended by signals than signals were sent, and each pipeline loses at most
one of its waits to a signal. Signals from before the line make no difference to it (`execute_stale`).
-/

namespace AuditShell

variable {σ : Type}

/-! ## What the journal says about signals -/

namespace Event

/-- The signal that has ended a wait. -/
def interrupt? : Event → Option Signal
  | interrupt sig _ => some sig
  | _ => none

/-- Whether a pipeline is started. -/
def isPipeline : Event → Bool
  | pipeline _ => true
  | _ => false

/-- Whether a signal was sent and the slot has taken it up. -/
def isDelivered : Event → Bool
  | sent _ taken => taken
  | _ => false

end Event

/-- What an account says about the events since the signals of earlier lines were dropped. -/
structure Account.Tells (a : Account) (es : List Event) : Prop where
  hits : es.filterMap Event.interrupt? = a.hits.map (·.delivery.signal)
  begun : es.countP Event.isPipeline = a.begun
  delivered : a.delivered.length ≤ es.countP Event.isDelivered

namespace Account.Tells

variable {a : Account} {es es' : List Event}

/-- Events that are about something else. -/
theorem append (h : a.Tells es) (hes : ∀ e ∈ es', e.interrupt? = none ∧ e.isPipeline = false) : a.Tells (es ++ es') where
  hits := by
    rw [List.filterMap_append, List.filterMap_eq_nil_iff.2 fun e he => (hes e he).1, List.append_nil]
    exact h.hits
  begun := by
    rw [List.countP_append, List.countP_eq_zero.2 fun e he => ne_true_of_eq_false (hes e he).2]
    exact h.begun
  delivered := by
    rw [List.countP_append]
    exact Nat.le_trans h.delivered (Nat.le_add_right _ _)

theorem sent (h : a.Tells es) (phase : Phase) (sig : Signal) : (a.sent phase sig true).Tells (es ++ [.sent sig true]) where
  hits := by simpa [Account.sent, Event.interrupt?, List.filterMap_cons] using h.hits
  begun := by simpa [Account.sent, Event.isPipeline] using h.begun
  delivered := by simpa [Account.sent, Event.isDelivered] using h.delivered

theorem start (h : a.Tells es) (line : Bytes) : a.start.Tells (es ++ [.pipeline line]) where
  hits := by simpa [Account.start, Event.interrupt?, List.filterMap_cons] using h.hits
  begun := by simpa [Account.start, Event.isPipeline] using h.begun
  delivered := by simpa [Account.start, Event.isDelivered] using h.delivered

theorem giveBack (h : a.Tells es) (d : Delivery) (taken : Bool) :
    (a.giveBack d taken).Tells (es ++ [.sent d.signal taken]) := by
  have hsent : a.Tells (es ++ [.sent d.signal taken]) := h.append (by simp [Event.interrupt?, Event.isPipeline])
  exact ⟨by simpa using hsent.hits, by simpa using hsent.begun, by simpa using hsent.delivered⟩

theorem hit (h : a.Tells es) (d : Delivery) (process : Nat) : (a.hit d).Tells (es ++ [.interrupt d.signal process]) where
  hits := by simpa [Account.hit, Event.interrupt?, List.filterMap_cons] using h.hits
  begun := by simpa [Account.hit, Event.isPipeline] using h.begun
  delivered := by simpa [Account.hit, Event.isDelivered] using h.delivered

end Account.Tells

/-! ## Where each signal is -/

/-- No signal has ended a wait of the pipeline that is running. -/
def Phase.isOpen : Phase → Bool
  | running => true
  | exiting _ _ => true
  | waiting _ => true
  | holding _ _ => true
  | returning _ _ => true
  | _ => false

/-- The account of a line is in order, and tells what the journal has got since it was `base`. -/
structure Moment.Accounted (base : List Event) (x : Moment σ) : Prop where
  synced : x.Synced
  drained : ∀ k, x.phase ≠ .draining k
  journal : ∃ es, x.shell.journal = base ++ es ∧ x.account.Tells es
  /-- Signals are numbered in the order in which they are sent. -/
  numbered : x.account.delivered.map Delivery.number = List.range x.account.delivered.length
  /-- Each signal is in one place. -/
  conserved : x.account.delivered.Perm
    (x.account.hits.map Hit.delivery ++ x.account.merged ++ x.phase.hand?.toList ++ x.account.slot.toList)
  started : x.phase.inFlight → 0 < x.account.begun
  begun : ∀ h ∈ x.account.hits, 0 < h.pipeline ∧ h.pipeline ≤ x.account.begun
  unhit : x.phase.isOpen → ∀ h ∈ x.account.hits, h.pipeline < x.account.begun
  /-- A wait can only take a signal from a slot. -/
  handle : x.phase.hand?.isSome → x.shell.interrupts ≠ .missing
  /-- At most one wait of each pipeline is ended by a signal. -/
  increasing : (x.account.hits.map Hit.pipeline).Pairwise (· < ·)
  pending : x.phase.inFlight → ∀ d, x.phase.hand? = some d ∨ x.account.slot = some d →
    d.during = some x.account.begun ∨ x.account.carried = some d
  /-- A signal that ends a wait was sent during its pipeline, or was in the slot before this pipeline. -/
  source : ∀ h ∈ x.account.hits, h.delivery.during = some h.pipeline ∨ h.atStart = some h.delivery

namespace Moment.Accounted

variable {base : List Event} {x : Moment σ}

/-- A step that changes neither the account nor what a wait has in hand. -/
theorem move (h : x.Accounted base) {phase : Phase} {s : Shell σ} (es : List Event)
    (hs : s.interrupts = x.shell.interrupts) (hjournal : s.journal = x.shell.journal ++ es)
    (hes : ∀ e ∈ es, e.interrupt? = none ∧ e.isPipeline = false) (hdrained : ∀ k, phase ≠ .draining k)
    (hhand : phase.hand? = x.phase.hand?) (hflight : phase.inFlight → x.phase.inFlight)
    (hopen : phase.isOpen → x.phase.isOpen) : (⟨phase, s, x.account⟩ : Moment σ).Accounted base where
  synced := by
    unfold Moment.Synced
    rw [hs]
    exact h.synced
  drained := hdrained
  journal := by
    obtain ⟨es', hes', htells⟩ := h.journal
    exact ⟨es' ++ es, by rw [← List.append_assoc, ← hes']; exact hjournal, htells.append hes⟩
  numbered := h.numbered
  conserved := by
    dsimp only
    rw [hhand]
    exact h.conserved
  started hf := h.started (hflight hf)
  begun := h.begun
  unhit ho := h.unhit (hopen ho)
  handle hh := by
    rw [hs]
    exact h.handle (by rwa [hhand] at hh)
  increasing := h.increasing
  pending hf d hd := h.pending (hflight hf) d (by rwa [hhand] at hd)
  source := h.source

/-- The account tells the journal with one more event, if it tells this event. -/
theorem noted (h : x.Accounted base) {a : Account} {journal : List Event} (e : Event)
    (hjournal : journal = x.shell.journal ++ [e]) (htells : ∀ es, x.account.Tells es → a.Tells (es ++ [e])) :
    ∃ es, journal = base ++ es ∧ a.Tells es := by
  obtain ⟨es, hes, hbefore⟩ := h.journal
  refine ⟨es ++ [e], ?_, htells es hbefore⟩
  rw [← List.append_assoc, ← hes]
  exact hjournal

theorem slot_eq_none (h : x.Accounted base) {sig : Signal} (hsend : (x.shell.interrupts.send sig).1 = true) :
    x.account.slot = none := by
  have hsynced := h.synced
  unfold Moment.Synced at hsynced
  rw [Interrupts.pending?_of_delivered _ _ hsend] at hsynced
  exact Option.map_eq_none_iff.1 hsynced.symm

variable {phase : Phase} {s : Shell σ} {a : Account}

theorem sent (h : (⟨phase, s, a⟩ : Moment σ).Accounted base) (sig : Signal) :
    (⟨phase, (s.send sig).2, a.sent phase sig (s.send sig).1⟩ : Moment σ).Accounted base := by
  rw [Shell.send_delivered]
  cases hsend : (s.interrupts.send sig).1 with
  | false =>
    refine h.move [.sent sig false] (Interrupts.send_of_refused _ _ hsend) ?_
      (by simp [Event.interrupt?, Event.isPipeline]) h.drained rfl id id
    rw [← hsend]
    rfl
  | true =>
    have hslot : a.slot = none := h.slot_eq_none hsend
    have hconserved := h.conserved
    simp only [hslot, Option.toList_none, List.append_nil] at hconserved
    constructor
    · exact Interrupts.pending?_send_of_delivered _ _ hsend
    · exact h.drained
    · refine h.noted (.sent sig true) ?_ fun es htells => htells.sent phase sig
      rw [← hsend]
      rfl
    · simpa [Account.sent, List.range_succ] using h.numbered
    · simpa [Account.sent] using hconserved.append_right _
    · exact h.started
    · exact h.begun
    · exact h.unhit
    · exact fun hh => Interrupts.send_ne_missing _ _ (h.handle hh)
    · exact h.increasing
    · rintro hflight d (hd | hd)
      · exact h.pending hflight d (.inl hd)
      · -- the signal that was just sent
        left
        cases hd
        exact if_pos hflight
    · exact h.source

theorem start (h : (⟨.between, s, a⟩ : Moment σ).Accounted base) (line : Bytes) :
    (⟨.running, s.note (.pipeline line), a.start⟩ : Moment σ).Accounted base where
  synced := h.synced
  drained := nofun
  journal := h.noted (.pipeline line) rfl fun _ htells => htells.start line
  numbered := h.numbered
  conserved := h.conserved
  started _ := Nat.succ_pos _
  begun hit hhit := ⟨(h.begun hit hhit).1, Nat.le_succ_of_le (h.begun hit hhit).2⟩
  unhit _ hit hhit := Nat.lt_succ_of_le (h.begun hit hhit).2
  handle := nofun
  increasing := h.increasing
  pending := by
    rintro - d (hd | hd)
    · cases hd
    · exact .inr hd
  source := h.source

theorem take {process : Nat} (h : (⟨.waiting process, s, a⟩ : Moment σ).Accounted base) (d : Delivery)
    (hpending : s.interrupts.pending? = some d.signal) (hd : a.slot = some d) :
    (⟨.holding process d, { s with interrupts := s.interrupts.receive.2 }, { a with slot := none }⟩ :
      Moment σ).Accounted base where
  synced := by simp [Moment.Synced]
  drained := nofun
  journal := by
    obtain ⟨es, hes, htells⟩ := h.journal
    exact ⟨es, hes, htells.hits, htells.begun, htells.delivered⟩
  numbered := h.numbered
  conserved := by simpa [hd, Phase.hand?] using h.conserved
  started := h.started
  begun := h.begun
  unhit := h.unhit
  handle _ := by
    dsimp only
    match hi : s.interrupts with
    | .missing =>
      rw [hi] at hpending
      cases hpending
    | .slot p => exact nofun
  increasing := h.increasing
  pending := by
    rintro - e (he | he)
    · cases he
      exact h.pending rfl d (.inr hd)
    · cases he
  source := h.source

theorem giveBack {d : Delivery} {r : Except Failure Ended} (h : (⟨.returning d r, s, a⟩ : Moment σ).Accounted base) :
    (⟨.afterWait r, (s.send d.signal).2, a.giveBack d (s.send d.signal).1⟩ : Moment σ).Accounted base where
  synced := (Step.giveBack : Step {} _ _).synced h.synced
  drained := by cases r <;> exact nofun
  journal := h.noted (.sent d.signal (s.send d.signal).1) rfl fun _ htells => htells.giveBack d _
  numbered := by simpa using h.numbered
  conserved := by
    have hconserved := h.conserved
    rw [Shell.send_delivered]
    cases hsend : (s.interrupts.send d.signal).1 with
    | false => simpa [Account.giveBack] using hconserved
    | true =>
      have hslot : a.slot = none := h.slot_eq_none hsend
      simpa [Account.giveBack, hslot] using hconserved
  started _ := by simpa using h.started rfl
  begun := by simpa using h.begun
  unhit _ := by simpa using h.unhit rfl
  handle := by simp
  increasing := by simpa using h.increasing
  pending := by
    have hpending := h.pending rfl
    rintro - e (he | he)
    · simp at he
    · simp only [Account.giveBack_begun, Account.giveBack_carried]
      cases hsend : (s.send d.signal).1 with
      | false =>
        rw [hsend] at he
        exact hpending e (.inr he)
      | true =>
        rw [hsend] at he
        cases he
        exact hpending d (.inl rfl)
  source := by simpa using h.source

theorem hit {process : Nat} {d : Delivery} (h : (⟨.holding process d, s, a⟩ : Moment σ).Accounted base) :
    (⟨.failed, s.note (.interrupt d.signal process), a.hit d⟩ : Moment σ).Accounted base where
  synced := h.synced
  drained := nofun
  journal := h.noted (.interrupt d.signal process) rfl fun _ htells => htells.hit d process
  numbered := h.numbered
  conserved := by
    -- the signal goes from the hand of the wait to those that have ended one
    refine h.conserved.trans ?_
    simp only [Account.hit, Phase.hand?, List.map_append, List.map_cons, List.map_nil, Option.toList_some,
      Option.toList_none, List.append_nil, List.append_assoc, List.singleton_append]
    exact .append_left _ List.perm_middle
  started := h.started
  begun := by
    intro hit hhit
    rcases List.mem_append.1 hhit with hhit | hhit
    · exact h.begun hit hhit
    · cases List.mem_singleton.1 hhit
      exact ⟨h.started rfl, Nat.le_refl _⟩
  unhit := nofun
  handle := nofun
  increasing := by
    -- the pipeline that is running has not lost a wait before
    have hlast : ∀ hit ∈ a.hits, hit.pipeline < a.begun := h.unhit rfl
    have hbefore : (a.hits.map Hit.pipeline).Pairwise (· < ·) := h.increasing
    dsimp only [Account.hit]
    rw [List.map_append, List.pairwise_append]
    refine ⟨hbefore, List.pairwise_singleton _ _, ?_⟩
    simpa using hlast
  pending := by
    rintro - e (he | he)
    · cases he
    · exact h.pending rfl e (.inr he)
  source := by
    intro hit hhit
    rcases List.mem_append.1 hhit with hhit | hhit
    · exact h.source hit hhit
    · cases List.mem_singleton.1 hhit
      exact h.pending rfl d (.inl rfl)

end Moment.Accounted

theorem Event.isAside.account {e : Event} (h : e.isAside) : e.interrupt? = none ∧ e.isPipeline = false := by
  cases e <;> first | exact ⟨rfl, rfl⟩ | cases h

theorem Step.accounted {set : Settings} {base : List Event} {x y : Moment σ} (h : Step set x y)
    (hx : x.Accounted base) : y.Accounted base := by
  -- most steps move nothing between the places where signals can be
  cases h with
  | silent hs =>
    exact hx.move [] hs.interrupts (by rw [hs.journal, List.append_nil]) (by simp) hx.drained rfl id id
  | note e he => exact hx.move _ rfl rfl (by simpa using Event.isAside.account he) hx.drained rfl id id
  | @wrote phase s a stream bytes =>
    have hslot := Shell.write_interrupts set.capture stream bytes s
    have hjournal := Shell.write_journal set.capture stream bytes s
    split at hjournal
    · exact hx.move [] hslot (hjournal.trans (List.append_nil _).symm) (by simp) hx.drained rfl id id
    · exact hx.move _ hslot hjournal (by simp [Event.interrupt?, Event.isPipeline]) hx.drained rfl id id
  | sent sig => exact hx.sent sig
  | @drop k => exact absurd rfl (hx.drained k)
  | @drained k => exact absurd rfl (hx.drained k)
  | clear => exact hx.move [] rfl (List.append_nil _).symm (by simp) (by simp) rfl nofun nofun
  | start line => exact hx.start line
  | exit code => exact hx.move [] rfl (List.append_nil _).symm (by simp) (by simp) rfl (fun _ => rfl) (fun _ => rfl)
  | @flush s a code stream streams =>
    cases stream <;>
      exact hx.move _ rfl rfl (by simp [Event.interrupt?, Event.isPipeline]) (by simp) rfl (fun _ => rfl) (fun _ => rfl)
  | hook =>
    exact hx.move _ rfl rfl (by simp [Event.interrupt?, Event.isPipeline]) (by simp) rfl (fun _ => rfl) (fun _ => rfl)
  | wait process => exact hx.move [] rfl (List.append_nil _).symm (by simp) (by simp) rfl (fun _ => rfl) (fun _ => rfl)
  | @ended s a process r =>
    have hdrained : ∀ k, Phase.afterWait r ≠ .draining k := by cases r <;> exact nofun
    exact hx.move _ rfl rfl (by simp [Event.interrupt?, Event.isPipeline]) hdrained (Phase.hand?_afterWait r)
      (fun _ => rfl) (fun _ => rfl)
  | take d hs ha => exact hx.take d hs ha
  | @found s a process d r =>
    exact hx.move _ rfl rfl (by simp [Event.interrupt?, Event.isPipeline]) (by simp) rfl (fun _ => rfl) (fun _ => rfl)
  | giveBack => exact hx.giveBack
  | interrupt => exact hx.hit
  | cancelled =>
    exact hx.move _ rfl rfl (by simp [Event.interrupt?, Event.isPipeline]) (by simp) rfl (fun _ => rfl) nofun
  | fail => exact hx.move [] rfl (List.append_nil _).symm (by simp) (by simp) rfl (fun _ => rfl) nofun
  | reaped process =>
    exact hx.move _ rfl rfl (by simp [Event.interrupt?, Event.isPipeline]) (by simp) rfl id nofun
  | finish hphase =>
    refine hx.move [] rfl (List.append_nil _).symm (by simp) (by simp) ?_ nofun nofun
    rcases hphase with rfl | rfl <;> rfl

theorem Steps.accounted {set : Settings} {base : List Event} {x y : Moment σ} (h : Steps set x y)
    (hx : x.Accounted base) : y.Accounted base := by
  induction h with
  | refl => exact hx
  | tail _ hstep ih => exact hstep.accounted ih

theorem Moment.accounted_ready (s : Shell σ) (hs : s.interrupts.pending? = none) :
    (⟨.ready, s, {}⟩ : Moment σ).Accounted s.journal where
  synced := hs
  drained := nofun
  journal := ⟨[], (List.append_nil _).symm, rfl, rfl, Nat.le_refl _⟩
  numbered := rfl
  conserved := .refl _
  started := nofun
  begun := nofun
  unhit := nofun
  handle := nofun
  increasing := .nil
  pending := nofun
  source := nofun

/-- A line that no longer drops the signals of earlier lines has once found the slot empty. -/
theorem Steps.from_ready {set : Settings} {s : Shell σ} {x : Moment σ} (h : Steps set (.start s) x) :
    (∃ k, x.phase = .draining k) ∨ ∃ t : Shell σ, t.interrupts.pending? = none ∧
      Steps set (.start s) ⟨.ready, t, {}⟩ ∧ Steps set ⟨.ready, t, {}⟩ x := by
  induction h with
  | refl => exact .inl ⟨0, rfl⟩
  | @tail y z hsteps hstep ih =>
    -- the last signal of an earlier line is dropped at one of the steps
    rcases ih with ⟨k, hk⟩ | ⟨t, ht, hready, hy⟩
    · have hready := hsteps.tail hstep
      cases hstep with
      | @drained k s a hnone =>
        refine .inr ⟨_, ?_, hready, .refl⟩
        split <;> exact hnone
      | silent | note | wrote | sent => exact .inl ⟨k, hk⟩
      | drop => exact .inl ⟨_, rfl⟩
      | finish hphase => rcases hphase with rfl | rfl <;> cases hk
      | _ => cases hk
    · exact .inr ⟨t, ht, hready, hy.tail hstep⟩

/-! ### What follows from an account that is in order -/

namespace Moment.Accounted

variable {base : List Event} {x : Moment σ}

theorem nodup_delivered (h : x.Accounted base) : x.account.delivered.Nodup :=
  .of_map Delivery.number (h.numbered ▸ List.nodup_range)

/-- The signals that have ended waits are among those that were sent. -/
theorem subperm_hits (h : x.Accounted base) : (x.account.hits.map Hit.delivery).Subperm x.account.delivered := by
  have hsublist : (x.account.hits.map Hit.delivery).Sublist
      (x.account.hits.map Hit.delivery ++ x.account.merged ++ x.phase.hand?.toList ++ x.account.slot.toList) := by
    rw [List.append_assoc, List.append_assoc]
    exact List.sublist_append_left _ _
  exact hsublist.subperm.trans h.conserved.symm.subperm

theorem nodup_hits (h : x.Accounted base) : (x.account.hits.map Hit.delivery).Nodup := by
  obtain ⟨ds, hds, hsublist⟩ := h.subperm_hits
  exact hds.nodup_iff.1 (h.nodup_delivered.sublist hsublist)

end Moment.Accounted

/-! ## Giving a signal back -/

/-- The two shells have slots, and differ at most in what is in them and in their journals. -/
def Shell.BesideSlot (s s' : Shell σ) : Prop :=
  ∃ p q j, s.interrupts = .slot p ∧ s' = { s with interrupts := .slot q, journal := j }

namespace Shell.BesideSlot

variable {s s' : Shell σ}

theorem happen (capture : Bool) (x : Happening) (h : s.BesideSlot s') :
    (s.happen capture x).BesideSlot (s'.happen capture x) := by
  obtain ⟨p, q, j, hp, rfl⟩ := h
  cases x with
  | wrote stream bytes =>
    unfold Shell.happen Shell.write
    dsimp only
    split
    · exact ⟨p, q, j, hp, rfl⟩
    · refine ⟨p, q, j ++ [.wrote stream bytes], ?_, ?_⟩
      · cases capture <;> cases stream <;> exact hp
      · cases capture <;> cases stream <;> rfl
  | sent sig =>
    unfold Shell.happen Shell.send
    dsimp only
    rw [hp]
    cases p <;> cases q <;> exact ⟨_, _, _, rfl, rfl⟩
  | cancelled => exact ⟨p, q, j, hp, rfl⟩

theorem absorb (m : Machine σ) (capture : Bool) (h : s.BesideSlot s') :
    (s.absorb m capture).BesideSlot (s'.absorb m capture) := by
  have hfold (xs : List Happening) {t t' : Shell σ} (ht : t.BesideSlot t') :
      (xs.foldl (Shell.happen capture) t).BesideSlot (xs.foldl (Shell.happen capture) t') := by
    induction xs generalizing t t' with
    | nil => exact ht
    | cons x xs ih => exact ih (ht.happen capture x)
  obtain ⟨p, q, j, hp, rfl⟩ := h
  exact hfold (m.meanwhile s.world).1 ⟨p, q, j, hp, rfl⟩

/-- With the signals the difference goes, and only the journals can tell. -/
theorem dropStale (h : s.BesideSlot s') : s'.dropStale = { s.dropStale with journal := s'.dropStale.journal } := by
  obtain ⟨p, q, j, hp, rfl⟩ := h
  unfold Shell.dropStale
  dsimp only
  rw [hp]
  cases p <;> cases q <;> rfl

end Shell.BesideSlot

end AuditShell
