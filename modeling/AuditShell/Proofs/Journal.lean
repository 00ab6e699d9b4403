import AuditShell.Proofs.Machine
/-!
# What the shell keeps and notes

Between two requests of its own the shell only takes in what has happened outside. Then its children and
its numbers stay the same, and what it notes is quiet: no builtin is run, no process is started, no child
is killed and no exit is asked for (`Shell.Stays`). Where a pipeline is wound up, only what is closed and
what was waited for is noted besides (`Event.winding`). A builtin asks for exits and kills the children, but
it keeps them too (`stays_runAction`).
-/

namespace AuditShell

variable {σ α : Type}

/-- Whether an event is none of those that only starting a stage can lead to. -/
def Event.quiet : Event → Bool
  | .builtin _ _ => false
  | .spawned _ _ => false
  | .killed _ => false
  | .exitHook _ => false
  | _ => true

/-- Whether an event comes from outside, or where a pipeline is wound up: something is closed, or a process was
waited for. -/
def Event.winding : Event → Bool
  | .wrote _ _ => true
  | .sent _ _ => true
  | .closed _ => true
  | .readerClosed _ => true
  | .writerClosed _ => true
  | .waited _ => true
  | _ => false

theorem Event.winding.quiet {e : Event} (h : e.winding) : e.quiet := by
  cases e <;> first | rfl | cases h

/-- What an event says was written to a stream of the line. -/
def Event.written (stream : Stream) : Event → Bytes
  | .wrote st bytes => if st = stream then bytes else []
  | _ => []

/-- Something about a world that changes only with files, pipes and processes that are opened, closed,
started or waited for. -/
structure Machine.Leaves (m : Machine σ) (g : σ → α) : Prop where
  kill : ∀ process w, g (m.kill process w) = g w
  chdir : ∀ path w, g (m.chdir path w).2 = g w
  meanwhile : ∀ w, g (m.meanwhile w).2 = g w

namespace Shell

/-- What was written to a stream of the line from one moment to a later one. -/
def written (stream : Stream) (s s' : Shell σ) : Bytes :=
  (s'.journal.drop s.journal.length).flatMap (Event.written stream)

/-- What is written in two parts of a run, one after the other. -/
theorem written_append {s s' s'' : Shell σ} (stream : Stream) (h : s.journal <+: s'.journal)
    (h' : s'.journal <+: s''.journal) : written stream s s'' = written stream s s' ++ written stream s' s'' := by
  obtain ⟨es, hes⟩ := h
  obtain ⟨es', hes'⟩ := h'
  unfold written
  rw [← hes', ← hes, List.drop_left, List.drop_left, List.append_assoc, List.drop_left, List.flatMap_append]

/-- All events that the later shell has noted since satisfy `P`. -/
def Grows (P : Event → Prop) (s s' : Shell σ) : Prop := ∃ es, s'.journal = s.journal ++ es ∧ ∀ e ∈ es, P e

namespace Grows

variable {P Q : Event → Prop} {s s' s'' : Shell σ}

theorem of_eq (h : s'.journal = s.journal) : Grows P s s' := ⟨[], by rw [h, List.append_nil], by simp⟩

theorem trans (h : Grows P s s') (h' : Grows P s' s'') : Grows P s s'' := by
  obtain ⟨es, hes, hP⟩ := h
  obtain ⟨es', hes', hP'⟩ := h'
  refine ⟨es ++ es', by rw [hes', hes, List.append_assoc], fun e he => ?_⟩
  rcases List.mem_append.1 he with he | he
  · exact hP e he
  · exact hP' e he

theorem mono (h : Grows P s s') (hPQ : ∀ e, P e → Q e) : Grows Q s s' := by
  obtain ⟨es, hes, hP⟩ := h
  exact ⟨es, hes, fun e he => hPQ e (hP e he)⟩

theorem note (h : Grows P s s') {e : Event} (he : P e) : Grows P s (s'.note e) :=
  h.trans ⟨[e], rfl, by simpa using he⟩

end Grows

/-- A later shell has all the events of an earlier one. -/
theorem Grows.journal {P : Event → Prop} {s s' : Shell σ} (h : Grows P s s') : s.journal <+: s'.journal := by
  obtain ⟨es, hes, -⟩ := h
  exact ⟨es, hes.symm⟩

/-- The later shell has the same children and numbers and the same view of its world, and all events
that it has noted since satisfy `P`. -/
structure Stays (g : σ → α) (P : Event → Prop) (s s' : Shell σ) : Prop where
  world : g s'.world = g s.world
  foreground : s'.foreground = s.foreground
  fresh : s'.fresh = s.fresh
  journal : Grows P s s'

namespace Stays

variable {g : σ → α} {P Q : Event → Prop} {s s' s'' : Shell σ}

theorem refl (g : σ → α) (P : Event → Prop) (s : Shell σ) : Stays g P s s := ⟨rfl, rfl, rfl, .of_eq rfl⟩

theorem trans (h : Stays g P s s') (h' : Stays g P s' s'') : Stays g P s s'' :=
  ⟨h'.world.trans h.world, h'.foreground.trans h.foreground, h'.fresh.trans h.fresh, h.journal.trans h'.journal⟩

theorem mono (h : Stays g P s s') (hPQ : ∀ e, P e → Q e) : Stays g Q s s' :=
  ⟨h.world, h.foreground, h.fresh, h.journal.mono hPQ⟩

theorem note {e : Event} (he : P e) (s : Shell σ) : Stays g P s (s.note e) :=
  ⟨rfl, rfl, rfl, .note (.of_eq rfl) he⟩

end Stays

theorem write_journal (capture : Bool) (stream : Stream) (bytes : Bytes) (s : Shell σ) :
    (s.write capture stream bytes).journal = if bytes = [] then s.journal else s.journal ++ [.wrote stream bytes] := by
  unfold write
  split
  · rfl
  · cases capture <;> cases stream <;> rfl

variable (g : σ → α)

theorem stays_write (capture : Bool) (stream : Stream) (bytes : Bytes) (s : Shell σ) :
    Stays g (·.quiet) s (s.write capture stream bytes) := by
  unfold write
  split
  · exact .refl g _ s
  · have hnote : Stays g (·.quiet) s (s.note (.wrote stream bytes)) := .note (by rfl) s
    cases capture <;> cases stream <;> exact ⟨hnote.world, hnote.foreground, hnote.fresh, hnote.journal⟩

theorem stays_send (sig : Signal) (s : Shell σ) : Stays g (·.quiet) s (s.send sig).2 := by
  have hnote : Stays g (·.quiet) s (s.note (.sent sig (s.interrupts.send sig).1)) := .note (by rfl) s
  exact ⟨hnote.world, hnote.foreground, hnote.fresh, hnote.journal⟩

theorem stays_happen (capture : Bool) (h : Happening) (s : Shell σ) : Stays g (·.quiet) s (s.happen capture h) := by
  cases h with
  | wrote stream bytes => exact stays_write g capture stream bytes s
  | sent sig => exact stays_send g sig s
  | cancelled => exact ⟨rfl, rfl, rfl, .of_eq rfl⟩

theorem stays_flushStream (stream : Stream) (s : Shell σ) : Stays g (·.quiet) s (s.flushStream stream) := by
  cases stream with
  | out => exact ⟨rfl, rfl, rfl, [.flushed .out s.capturedOut], rfl, by simp [Event.quiet]⟩
  | err => exact ⟨rfl, rfl, rfl, [.flushed .err s.capturedErr], rfl, by simp [Event.quiet]⟩

theorem stays_flush (set : Settings) (s : Shell σ) : Stays g (·.quiet) s (s.flush set) := by
  have hstream (b : Bool) (stream : Stream) (s : Shell σ) :
      Stays g (·.quiet) s (if b then s.flushStream stream else s) := by
    cases b with
    | true => exact stays_flushStream g stream s
    | false => exact .refl g _ s
  exact (hstream _ .out s).trans (hstream _ .err _)

variable {g} {m : Machine σ} (hm : m.Leaves g)

include hm

theorem stays_absorb (capture : Bool) (s : Shell σ) : Stays g (·.quiet) s (s.absorb m capture) := by
  unfold absorb
  have hfold (hs : List Happening) (t : Shell σ) : Stays g (·.quiet) t (hs.foldl (happen capture) t) := by
    induction hs generalizing t with
    | nil => exact .refl g _ t
    | cons h hs ih => exact (stays_happen g capture h t).trans (ih _)
  have hstart : Stays g (·.quiet) s { s with world := (m.meanwhile s.world).2 } :=
    ⟨hm.meanwhile s.world, rfl, rfl, .of_eq rfl⟩
  exact hstart.trans (hfold (m.meanwhile s.world).1 _)

theorem stays_killForeground (P : Event → Prop) (s : Shell σ) : Stays g P s (s.killForeground m) := by
  have hfold (ps : List Nat) (w : σ) : g (ps.foldl (fun w p => m.kill p w) w) = g w := by
    induction ps generalizing w with
    | nil => rfl
    | cons p ps ih => rw [List.foldl_cons, ih, hm.kill]
  exact ⟨hfold s.foreground s.world, rfl, rfl, .of_eq rfl⟩

end Shell

/-- The events of a builtin that runs while there are `n` children. -/
def Event.OfBuiltin (n : Nat) (e : Event) : Prop := e.quiet ∨ (∃ code, e = .exitHook code) ∨ e = .killed n

/-- A builtin keeps the children, and where it kills them it learns how many there are. -/
theorem stays_runAction {m : Machine σ} {g : σ → α} (hm : m.Leaves g) (set : Settings) (a : Action) (s : Shell σ) :
    s.Stays g (Event.OfBuiltin s.foreground.length) (runAction m set a s).2 := by
  have hquiet {s s' : Shell σ} (n : Nat) (h : s.Stays g (·.quiet) s') : s.Stays g (Event.OfBuiltin n) s' :=
    h.mono fun _ => .inl
  induction a generalizing s with
  | finish failure => exact .refl g _ s
  | complain b k ih =>
    have habsorb := hquiet s.foreground.length (Shell.stays_absorb hm set.capture s)
    have hwrite := habsorb.trans (hquiet _ (Shell.stays_write g set.capture .err b _))
    have hk := ih ((s.absorb m set.capture).write set.capture .err b)
    rw [hwrite.foreground] at hk
    exact hwrite.trans hk
  | exit code k ih =>
    have habsorb := hquiet s.foreground.length (Shell.stays_absorb hm set.capture s)
    have hflush := habsorb.trans (hquiet _ (Shell.stays_flush g set _))
    have hnote := hflush.trans (.note (.inr (.inl ⟨code, rfl⟩)) ((s.absorb m set.capture).flush set))
    unfold runAction
    cases set.hook with
    | returns =>
      have hk := ih (((s.absorb m set.capture).flush set).note (.exitHook code))
      rw [hnote.foreground] at hk
      exact hnote.trans hk
    | terminates => exact hnote
  | changeDir path k ih =>
    have hworld := hm.chdir path s.world
    unfold runAction
    generalize m.chdir path s.world = r at hworld ⊢
    have hstart : s.Stays g (Event.OfBuiltin s.foreground.length) { s with world := r.2 } :=
      ⟨hworld, rfl, rfl, .of_eq rfl⟩
    exact hstart.trans (ih r.1 { s with world := r.2 })
  | send sig k ih =>
    have habsorb := hquiet s.foreground.length (Shell.stays_absorb hm set.capture s)
    have hsend := habsorb.trans (hquiet _ (Shell.stays_send g sig _))
    have hk := ih ((s.absorb m set.capture).send sig).1 ((s.absorb m set.capture).send sig).2
    rw [hsend.foreground] at hk
    exact hsend.trans hk
  | killAll k ih =>
    have hkill := (Shell.stays_killForeground hm (Event.OfBuiltin s.foreground.length) s).trans
      (.note (.inr (.inr rfl)) (s.killForeground m))
    have hk := ih s.foreground.length ((s.killForeground m).note (.killed s.foreground.length))
    exact hkill.trans hk
  | cancel k ih =>
    have hstart : s.Stays g (Event.OfBuiltin s.foreground.length) { s with cancelled := true } :=
      ⟨rfl, rfl, rfl, .of_eq rfl⟩
    exact hstart.trans (ih { s with cancelled := true })

/-! ## Quiet steps -/

section

variable (m : Machine σ) (set : Settings)

theorem Machine.leaves_unit : m.Leaves fun _ => () := ⟨fun _ _ => rfl, fun _ _ => rfl, fun _ => rfl⟩

theorem absorb_world (capture : Bool) (s : Shell σ) : (s.absorb m capture).world = (m.meanwhile s.world).2 := by
  have hfold (hs : List Happening) (t : Shell σ) : (hs.foldl (Shell.happen capture) t).world = t.world := by
    induction hs generalizing t with
    | nil => rfl
    | cons h hs ih => exact (ih _).trans (Shell.stays_happen id capture h t).world
  exact hfold _ _

theorem Shell.grows_absorb (capture : Bool) (s : Shell σ) : s.Grows (·.quiet) (s.absorb m capture) :=
  (Shell.stays_absorb m.leaves_unit capture s).journal

theorem grows_openOutput (input : Option Nat) (r : Option Redirect) (s : Shell σ) :
    s.Grows (·.quiet) (openOutput m input r s).2 := by
  cases r with
  | none => exact .of_eq rfl
  | some r =>
    unfold openOutput
    dsimp only
    rcases m.openWrite s.fresh (r.kind = .append) r.path s.world with ⟨_ | e, w⟩
    · exact .note (.of_eq rfl) rfl
    · cases input with
      | none => exact .of_eq rfl
      | some file => exact .note (.of_eq rfl) rfl

theorem grows_openRedirects (c : Command) (s : Shell σ) : s.Grows (·.quiet) (openRedirects m c s).2 := by
  unfold openRedirects
  split
  · exact .of_eq rfl
  · split
    · exact grows_openOutput m none c.output? s
    next r _ =>
      dsimp only
      rcases m.openRead s.fresh r.path s.world with ⟨_ | e, w⟩
      · have hopened : s.Grows (·.quiet) (({ s with world := w, fresh := s.fresh + 1 } : Shell σ).note (.opened s.fresh r)) :=
          .note (.of_eq rfl) rfl
        exact hopened.trans (grows_openOutput m _ _ _)
      · exact .of_eq rfl

theorem Shell.winds_absorb (capture : Bool) (s : Shell σ) : s.Grows (·.winding) (s.absorb m capture) := by
  have hhappen (h : Happening) (t : Shell σ) : t.Grows (·.winding) (t.happen capture h) := by
    cases h with
    | wrote stream bytes =>
      have hjournal := Shell.write_journal capture stream bytes t
      split at hjournal
      · exact .of_eq hjournal
      · exact ⟨_, hjournal, by simp [Event.winding]⟩
    | sent sig => exact ⟨[_], rfl, by simp [Event.winding]⟩
    | cancelled => exact .of_eq rfl
  have hfold (hs : List Happening) (t : Shell σ) : t.Grows (·.winding) (hs.foldl (Shell.happen capture) t) := by
    induction hs generalizing t with
    | nil => exact .of_eq rfl
    | cons h hs ih => exact (hhappen h t).trans (ih _)
  exact hfold _ { s with world := _ }

theorem winds_handOver (writer : Option Nat) (p : Plumbing) (s : Shell σ) :
    s.Grows (·.winding) (handOver m writer p s).2 := by
  unfold handOver
  cases writer with
  | none =>
    cases p.reader with
    | none => exact .of_eq rfl
    | some q => exact .note (.of_eq rfl) rfl
  | some w =>
    have hwriter : s.Grows (·.winding) (s.closeWriter m w) := .note (.of_eq rfl) rfl
    cases p.reader with
    | none => exact hwriter
    | some q => exact hwriter.trans (.note (.of_eq rfl) rfl)

theorem grows_handOver (writer : Option Nat) (p : Plumbing) (s : Shell σ) :
    s.Grows (·.quiet) (handOver m writer p s).2 :=
  (winds_handOver m writer p s).mono fun _ => Event.winding.quiet

theorem winds_reapAll (ps : List Nat) (s : Shell σ) : s.Grows (·.winding) (reapAll m set ps s) := by
  induction ps generalizing s with
  | nil => exact .of_eq rfl
  | cons p ps ih =>
    unfold reapAll
    have habsorbed : s.Grows (·.winding)
        (({ s with world := (m.reap p (m.kill p s.world)).2 } : Shell σ).absorb m set.capture) :=
      Shell.winds_absorb m set.capture { s with world := (m.reap p (m.kill p s.world)).2 }
    exact (habsorbed.note (e := .waited p) rfl).trans (ih _)

theorem grows_reapAll (ps : List Nat) (s : Shell σ) : s.Grows (·.quiet) (reapAll m set ps s) :=
  (winds_reapAll m set ps s).mono fun _ => Event.winding.quiet

theorem grows_killAndReap (process : Nat) (s : Shell σ) : s.Grows (·.quiet) (killAndReap m set process s) := by
  rw [killAndReap_eq]
  have habsorbed : s.Grows (·.quiet) (({ s.killForeground m with world :=
      (m.reap process (s.killForeground m).world).2 } : Shell σ).absorb m set.capture) :=
    Shell.grows_absorb m set.capture { s.killForeground m with world := (m.reap process (s.killForeground m).world).2 }
  exact habsorbed.note rfl

theorem grows_afterWake (process : Nat) (view : WakeView) (s : Shell σ) :
    s.Grows (·.quiet) (afterWake m set process view s).2 := by
  have habsorbed := Shell.grows_absorb m set.capture s
  have htaken : s.Grows (·.quiet) (({ s with interrupts := s.interrupts.receive.2 } : Shell σ).absorb m set.capture) :=
    Shell.grows_absorb m set.capture { s with interrupts := s.interrupts.receive.2 }
  match view with
  | .exit r => exact habsorbed.note rfl
  | .signal sig (some r) =>
    exact (htaken.note (e := .waited process) rfl).trans (Shell.stays_send (fun _ => ()) sig _).journal
  | .signal sig none =>
    exact (htaken.note (e := .interrupt sig process) rfl).trans (grows_killAndReap m set process _)
  | .cancel =>
    have hnoted : s.Grows (·.quiet) (s.note (.cancelled process)) := .note (.of_eq rfl) rfl
    exact hnoted.trans (grows_killAndReap m set process _)

theorem grows_await (process : Nat) (s : Shell σ) : s.Grows (·.quiet) (await m set process s).2 := by
  rw [await_eq]
  have habsorbed := Shell.grows_absorb m set.capture s
  generalize s.absorb m set.capture = t at habsorbed ⊢
  have hwoken : s.Grows (·.quiet)
      { t with world := (m.wake process t.interrupts.pending? t.cancelled t.world).2 } := habsorbed
  exact hwoken.trans (grows_afterWake m set process _ _)

theorem grows_awaitAll (ps : List Nat) (last : Option Ended) (s : Shell σ) :
    s.Grows (·.quiet) (awaitAll m set ps last s).2 := by
  induction ps generalizing last s with
  | nil => exact .of_eq rfl
  | cons p ps ih =>
    have hawait := grows_await m set p s
    unfold awaitAll
    generalize await m set p s = r at hawait ⊢
    obtain ⟨f | e, t⟩ := r
    · exact hawait.trans (grows_reapAll m set ps t)
    · exact hawait.trans (ih (some e) t)

theorem winds_closeAll (p : Plumbing) (s : Shell σ) : s.Grows (·.winding) (closeAll m p s) := by
  have hfiles (files : List Nat) (s : Shell σ) :
      s.Grows (·.winding) (files.foldl (fun s file => s.closeFile m file) s) := by
    induction files generalizing s with
    | nil => exact .of_eq rfl
    | cons file files ih =>
      have hclosed : s.Grows (·.winding) (s.closeFile m file) := .note (.of_eq rfl) rfl
      exact hclosed.trans (ih _)
  unfold closeAll
  cases p.reader with
  | none => exact hfiles p.files s
  | some q =>
    have hclosed : s.Grows (·.winding) (s.closeReader m q) := .note (.of_eq rfl) rfl
    exact hclosed.trans (hfiles p.files _)

theorem grows_closeAll (p : Plumbing) (s : Shell σ) : s.Grows (·.quiet) (closeAll m p s) :=
  (winds_closeAll m p s).mono fun _ => Event.winding.quiet

end

end AuditShell
