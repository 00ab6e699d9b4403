import AuditShell.Proofs.Deeds
/-!
# No child, pipe end or file is left behind

A pipeline takes files, pipe ends and children from the machine. `Machine.watched` keeps a ledger beside
the world of a machine: what is taken is entered, what is closed or waited for is struck out, and the
ledger is void once something is taken that is held, or given back that is not.

`runPipeline_gives_back`: when a pipeline comes back, the books are closed. The invariant is what the shell
holds between two stages: the children, files and the pipe end of its plumbing, and nothing else (`Plumbed`).
Where a builtin runs, the children of the pipeline are those of the stages before it, and when the builtin has the
children killed, there is one request for each of them (`Action.Does`).
-/

namespace AuditShell

variable {σ : Type}

/-! ## Ledgers -/

/-- What the shell takes from the machine and has to give back: an open file, its ends of a pipe, and a
child that was not waited for. -/
inductive Resource where
  | file (number : Nat)
  | reader (pipe : Nat)
  | writer (pipe : Nat)
  | child (process : Nat)
  deriving DecidableEq, Repr

/-- The number under which a resource was taken. -/
def Resource.number : Resource → Nat
  | .file n => n
  | .reader n => n
  | .writer n => n
  | .child n => n

/-- The resources that are held, or nothing where the books do not add up. -/
abbrev Ledger := Option (List Resource)

namespace Ledger

/-- A resource is taken, which must not be held. -/
def take (r : Resource) : Ledger → Ledger
  | none => none
  | some held => if r ∈ held then none else some (r :: held)

/-- A resource is given back, which must be held. -/
def giveBack (r : Resource) : Ledger → Ledger
  | none => none
  | some held => if r ∈ held then some (held.erase r) else none

/-- The ledger holds exactly these resources, all with numbers that have been given out. -/
structure Holds (fresh : Nat) (rs : List Resource) (l : Ledger) : Prop where
  held : ∃ held, l = some held ∧ held.Perm rs
  number : ∀ r ∈ rs, r.number < fresh

namespace Holds

variable {fresh : Nat} {rs rs' : List Resource} {r : Resource} {l : Ledger}

theorem perm (h : Holds fresh rs l) (hp : rs.Perm rs') : Holds fresh rs' l := by
  obtain ⟨held, hl, hheld⟩ := h.held
  exact ⟨⟨held, hl, hheld.trans hp⟩, fun r hr => h.number r (hp.mem_iff.2 hr)⟩

theorem next (h : Holds fresh rs l) : Holds (fresh + 1) rs l :=
  ⟨h.held, fun r hr => Nat.lt_succ_of_lt (h.number r hr)⟩

theorem not_mem (h : Holds fresh rs l) (hr : r.number = fresh) : r ∉ rs := fun hm => by
  have := h.number r hm
  omega

theorem take (h : Holds fresh rs l) (hr : r ∉ rs) (hn : r.number < fresh) : Holds fresh (r :: rs) (l.take r) := by
  obtain ⟨held, rfl, hheld⟩ := h.held
  refine ⟨⟨r :: held, ?_, hheld.cons r⟩, ?_⟩
  · exact if_neg fun hm => hr (hheld.mem_iff.1 hm)
  · rintro x (_ | ⟨_, hx⟩)
    · exact hn
    · exact h.number x hx

theorem giveBack (h : Holds fresh (r :: rs) l) : Holds fresh rs (l.giveBack r) := by
  obtain ⟨held, rfl, hheld⟩ := h.held
  refine ⟨⟨held.erase r, ?_, ?_⟩, fun x hx => h.number x (List.mem_cons_of_mem r hx)⟩
  · exact if_pos (hheld.mem_iff.2 (List.mem_cons_self ..))
  · have herase := hheld.erase r
    rwa [List.erase_cons_head] at herase

theorem eq_empty (h : Holds fresh [] l) : l = some [] := by
  obtain ⟨held, rfl, hheld⟩ := h.held
  rw [hheld.eq_nil]

end Holds

end Ledger

/-! ## Watched machines -/

/-- Whether the process has been waited for at the end of a wait. -/
def WakeView.ended : WakeView → Bool
  | .exit _ => true
  | .signal _ raced => raced.isSome
  | .cancel => false

/-- A machine with a ledger beside its world. -/
def Machine.watched (m : Machine σ) : Machine (σ × Ledger) where
  openRead file path w :=
    let r := m.openRead file path w.1
    (r.1, r.2, if r.1.isNone then w.2.take (.file file) else w.2)
  openWrite file append path w :=
    let r := m.openWrite file append path w.1
    (r.1, r.2, if r.1.isNone then w.2.take (.file file) else w.2)
  closeFile file w := (m.closeFile file w.1, w.2.giveBack (.file file))
  makePipe pipe w :=
    let r := m.makePipe pipe w.1
    (r.1, r.2, if r.1.isNone then (w.2.take (.reader pipe)).take (.writer pipe) else w.2)
  closeReader pipe w := (m.closeReader pipe w.1, w.2.giveBack (.reader pipe))
  closeWriter pipe w := (m.closeWriter pipe w.1, w.2.giveBack (.writer pipe))
  spawn process launch w :=
    let r := m.spawn process launch w.1
    (r.1, r.2, if r.1.isNone then w.2.take (.child process) else w.2)
  kill process w := (m.kill process w.1, w.2)
  reap process w :=
    let r := m.reap process w.1
    (r.1, r.2, w.2.giveBack (.child process))
  wake process pending cancelled w :=
    let r := m.wake process pending cancelled w.1
    (r.1, r.2, if r.1.view.ended then w.2.giveBack (.child process) else w.2)
  chdir path w :=
    let r := m.chdir path w.1
    (r.1, r.2, w.2)
  cwd w := m.cwd w.1
  meanwhile w :=
    let r := m.meanwhile w.1
    (r.1, r.2, w.2)

/-- Watching a machine does not change what it does. -/
theorem Machine.watched_hom (m : Machine σ) : m.watched.Hom m Prod.fst where
  openRead _ _ _ := rfl
  openWrite _ _ _ _ := rfl
  closeFile _ _ := rfl
  makePipe _ _ := rfl
  closeReader _ _ := rfl
  closeWriter _ _ := rfl
  spawn _ _ _ := rfl
  kill _ _ := rfl
  reap _ _ := rfl
  wake _ _ _ _ := rfl
  chdir _ _ := rfl
  cwd _ := rfl
  meanwhile _ := rfl

theorem Machine.watched_leaves (m : Machine σ) : m.watched.Leaves Prod.snd := ⟨fun _ _ => rfl, fun _ _ => rfl, fun _ => rfl⟩

/-! ## What the shell holds -/

/-- The process that an event says was started. -/
def Event.launch? : Event → Option (Nat × Launch)
  | .spawned process launch => some (process, launch)
  | _ => none

/-- The processes that were started, with what they were started for. -/
def Shell.launches (s : Shell σ) : List (Nat × Launch) := s.journal.filterMap Event.launch?

theorem Event.quiet.launch? {e : Event} (h : e.quiet) : e.launch? = none := by
  cases e <;> first | rfl | cases h

theorem Event.OfBuiltin.launch? {e : Event} {n : Nat} (h : e.OfBuiltin n) : e.launch? = none := by
  rcases h with h | ⟨code, rfl⟩ | rfl
  · exact Event.quiet.launch? h
  · rfl
  · rfl

/-- The children of a shell, the resources that its ledger holds, and the processes that it has started. -/
structure Holding (children : List Nat) (rs : List Resource) (ls : List (Nat × Launch)) (s : Shell (σ × Ledger)) :
    Prop where
  foreground : s.foreground.Perm children
  ledger : s.world.2.Holds s.fresh rs
  launches : s.launches = ls

namespace Holding

variable {children : List Nat} {rs rs' : List Resource} {ls : List (Nat × Launch)} {s s' : Shell (σ × Ledger)}
  {P : Event → Prop} {m : Machine σ} {set : Settings}

theorem perm (h : Holding children rs ls s) (hp : rs.Perm rs') : Holding children rs' ls s :=
  ⟨h.foreground, h.ledger.perm hp, h.launches⟩

theorem stays (h : Holding children rs ls s) (hs : s.Stays Prod.snd P s') (hP : ∀ e, P e → e.launch? = none) :
    Holding children rs ls s' := by
  obtain ⟨es, hes, hquiet⟩ := hs.journal
  refine ⟨hs.foreground ▸ h.foreground, ?_, ?_⟩
  · rw [hs.world, hs.fresh]
    exact h.ledger
  · have hnone : es.filterMap Event.launch? = [] := List.filterMap_eq_nil_iff.2 fun e he => hP e (hquiet e he)
    rw [Shell.launches, hes, List.filterMap_append, hnone, List.append_nil]
    exact h.launches

theorem absorb (h : Holding children rs ls s) (m : Machine σ) (set : Settings) :
    Holding children rs ls (s.absorb m.watched set.capture) :=
  h.stays (Shell.stays_absorb m.watched_leaves set.capture s) fun _ => Event.quiet.launch?

theorem note (h : Holding children rs ls s) {e : Event} (he : e.launch? = none) : Holding children rs ls (s.note e) :=
  h.stays (Shell.Stays.note (P := (·.launch? = none)) he s) fun _ => id

theorem closeFile {file : Nat} (h : Holding children (.file file :: rs) ls s) :
    Holding children rs ls (s.closeFile m.watched file) := by
  have hclosed : Holding children rs ls { s with world := m.watched.closeFile file s.world } :=
    ⟨h.foreground, h.ledger.giveBack, h.launches⟩
  exact hclosed.note rfl

theorem closeReader {pipe : Nat} (h : Holding children (.reader pipe :: rs) ls s) :
    Holding children rs ls (s.closeReader m.watched pipe) := by
  have hclosed : Holding children rs ls { s with world := m.watched.closeReader pipe s.world } :=
    ⟨h.foreground, h.ledger.giveBack, h.launches⟩
  exact hclosed.note rfl

theorem closeWriter {pipe : Nat} (h : Holding children (.writer pipe :: rs) ls s) :
    Holding children rs ls (s.closeWriter m.watched pipe) := by
  have hclosed : Holding children rs ls { s with world := m.watched.closeWriter pipe s.world } :=
    ⟨h.foreground, h.ledger.giveBack, h.launches⟩
  exact hclosed.note rfl

theorem untrack {process : Nat} (h : Holding (process :: children) rs ls s) :
    Holding children rs ls (s.untrack process) := by
  have herase : (s.foreground.erase process).Perm children := by
    have := h.foreground.erase process
    rwa [List.erase_cons_head] at this
  have hlost : Holding children rs ls { s with foreground := s.foreground.erase process } :=
    ⟨herase, h.ledger, h.launches⟩
  exact hlost.note rfl

/-- A request has failed. -/
theorem refused (h : Holding children rs ls s) (w : σ) :
    Holding children rs ls { s with world := (w, s.world.2), fresh := s.fresh + 1 } :=
  ⟨h.foreground, h.ledger.next, h.launches⟩

/-- A resource was taken under the next number. -/
theorem taken (h : Holding children rs ls s) (w : σ) {r : Resource} (hr : r.number = s.fresh) :
    Holding children (r :: rs) ls { s with world := (w, s.world.2.take r), fresh := s.fresh + 1 } :=
  ⟨h.foreground, h.ledger.next.take (h.ledger.not_mem hr) (by simp [hr]), h.launches⟩

end Holding

/-! ## Starting a stage -/

/-- The resources of the files that were opened, if they were. -/
def opened : Except Failure Opened → List Resource
  | .ok o => o.files.map .file
  | .error _ => []

/-- The resources of what a pipeline holds while its stages are being started. -/
def Plumbing.resources (p : Plumbing) : List Resource :=
  p.processes.map .child ++ (p.files.map .file ++ p.reader.toList.map .reader)

/-- Whether a command is started as a process. -/
def Settings.external (set : Settings) (c : Command) : Bool := (set.registry.lookup c.name).isNone

section

variable {children : List Nat} {rs : List Resource} {ls : List (Nat × Launch)} {s : Shell (σ × Ledger)} (m : Machine σ)

theorem holding_openOutput (input : Option Nat) (h : Holding children (input.toList.map .file ++ rs) ls s)
    (r : Option Redirect) :
    Holding children (opened (openOutput m.watched input r s).1 ++ rs) ls (openOutput m.watched input r s).2 := by
  cases r with
  | none => simpa [openOutput, opened, Opened.files] using h
  | some r =>
    rcases hr : m.openWrite s.fresh (r.kind = .append) r.path s.world.1 with ⟨_ | e, w⟩
    · have hopen : m.watched.openWrite s.fresh (r.kind = .append) r.path s.world =
          (none, w, s.world.2.take (.file s.fresh)) := by simp [Machine.watched, hr]
      have htaken := (h.taken w (r := .file s.fresh) rfl).note (e := .opened s.fresh r) rfl
      simp only [openOutput, hopen, opened, Opened.files]
      exact htaken.perm (by grind)
    · have hopen : m.watched.openWrite s.fresh (r.kind = .append) r.path s.world = (some e, w, s.world.2) := by
        simp [Machine.watched, hr]
      have hrefused := h.refused w
      simp only [openOutput, hopen, opened]
      cases input with
      | none => exact hrefused
      | some file => exact hrefused.closeFile

theorem holding_openRedirects (h : Holding children rs ls s) (c : Command) :
    Holding children (opened (openRedirects m.watched c s).1 ++ rs) ls (openRedirects m.watched c s).2 := by
  unfold openRedirects
  split
  · exact h
  · split
    · exact holding_openOutput m none h c.output?
    next r _ =>
      rcases hr : m.openRead s.fresh r.path s.world.1 with ⟨_ | e, w⟩
      · have hopen : m.watched.openRead s.fresh r.path s.world = (none, w, s.world.2.take (.file s.fresh)) := by
          simp [Machine.watched, hr]
        have htaken := (h.taken w (r := .file s.fresh) rfl).note (e := .opened s.fresh r) rfl
        simp only [hopen]
        exact holding_openOutput m (some s.fresh) htaken c.output?
      · have hopen : m.watched.openRead s.fresh r.path s.world = (some e, w, s.world.2) := by simp [Machine.watched, hr]
        simp only [hopen]
        exact h.refused w

end

/-- A pipeline whose first commands were started, in a shell that had children and had started processes
before: one more child for each external command, in order, and the resources of the plumbing. `extra` are
the ends of the pipe to the next stage. -/
structure Plumbed (set : Settings) (children : List Nat) (launches : List (Nat × Launch)) (before : Pipeline)
    (extra : List Resource) (p : Plumbing) (s : Shell (σ × Ledger)) : Prop where
  holding : ∃ ls, Holding (children ++ p.processes) (p.resources ++ extra) (launches ++ ls) s ∧
    ls.map Prod.fst = p.processes ∧ ls.map (·.2.words) = (before.filter set.external).map Command.words

/-- What holds after a stage was started or not, unless the shell has ended. -/
def AfterStage (set : Settings) (children : List Nat) (launches : List (Nat × Launch)) (before : Pipeline) (c : Command)
    (extra : List Resource) : StageEnd × Plumbing × Shell (σ × Ledger) → Prop
  | (.started, p, s) => Plumbed set children launches (before ++ [c]) extra p s
  | (.failed _, p, s) => Plumbed set children launches before extra p s
  | (.terminated _, _, _) => True

section

variable {children : List Nat} {launches : List (Nat × Launch)} {before : Pipeline} {extra : List Resource}
  {p : Plumbing} {s : Shell (σ × Ledger)} {set : Settings} (m : Machine σ)

theorem plumbed_start (set : Settings) (h : Holding children [] launches s) : Plumbed set children launches [] [] {} s :=
  ⟨[], ⟨by simpa using h.foreground, h.ledger, by simpa using h.launches⟩, rfl, rfl⟩

theorem afterStage_spawn {c : Command} {ls : List (Nat × Launch)} {files : List Nat} (hc : set.external c)
    (h : Holding (children ++ p.processes) (files.map .file ++ (p.resources ++ extra)) (launches ++ ls) s)
    (hprocesses : ls.map Prod.fst = p.processes)
    (hwords : ls.map (·.2.words) = (before.filter set.external).map Command.words) (stdin : Source) (stdout : Sink) :
    AfterStage set children launches before c extra (spawnStage m.watched c stdin stdout files p s) := by
  rcases hr : m.spawn s.fresh ⟨c.words, stdin, stdout, .err⟩ s.world.1 with ⟨_ | e, w⟩
  · have hspawn : m.watched.spawn s.fresh ⟨c.words, stdin, stdout, .err⟩ s.world =
        (none, w, s.world.2.take (.child s.fresh)) := by simp [Machine.watched, hr]
    obtain ⟨hfg, hledger, hlaunches⟩ := h.taken w (r := .child s.fresh) rfl
    simp only [spawnStage, hspawn]
    refine ⟨ls ++ [(s.fresh, ⟨c.words, stdin, stdout, .err⟩)], ⟨?_, hledger.perm ?_, ?_⟩, ?_, ?_⟩
    · rw [← List.append_assoc]
      exact hfg.append_right _
    · simp only [Plumbing.resources]
      grind
    · rw [← List.append_assoc, ← hlaunches]
      exact List.filterMap_append
    · simp [hprocesses]
    · simp [hwords, hc]
  · have hspawn : m.watched.spawn s.fresh ⟨c.words, stdin, stdout, .err⟩ s.world = (some e, w, s.world.2) := by
      simp [Machine.watched, hr]
    simp only [spawnStage, hspawn]
    refine ⟨ls, (h.refused w).perm ?_, hprocesses, hwords⟩
    simp only [Plumbing.resources]
    grind

theorem afterStage_startCommand (h : Plumbed set children launches before extra p s) (c : Command) (stdin : Source)
    (stdout : Sink) :
    AfterStage set children launches before c extra (startCommand m.watched set c stdin stdout p s) := by
  obtain ⟨ls, hholding, hprocesses, hwords⟩ := h.holding
  have hopened := holding_openRedirects m hholding c
  unfold startCommand
  generalize openRedirects m.watched c s = r at hopened ⊢
  obtain ⟨f | o, s'⟩ := r
  · exact ⟨ls, hopened, hprocesses, hwords⟩
  cases hlookup : set.registry.lookup c.name with
  | none => exact afterStage_spawn m (by simp [Settings.external, hlookup]) hopened hprocesses hwords _ _
  | some b =>
    have hstarted := hopened.note (e := .builtin c.name c.args) rfl
    have hran := hstarted.stays (stays_runAction m.watched_leaves set (b.run c.args) _) fun _ => Event.OfBuiltin.launch?
    have hfilter : (before ++ [c]).filter set.external = before.filter set.external := by
      simp [Settings.external, hlookup]
    -- the files of the builtin stay open until the pipeline ends
    have hfiles : (opened (.ok o) ++ (p.resources ++ extra)).Perm
        (({ p with files := p.files ++ o.files } : Plumbing).resources ++ extra) := by
      simp only [Plumbing.resources, opened]
      grind
    dsimp only
    generalize runAction m.watched set (b.run c.args) (s'.note (.builtin c.name c.args)) = r at hran ⊢
    obtain ⟨(_ | f) | code, t⟩ := r
    · exact ⟨ls, hran.perm hfiles, hprocesses, by rw [hfilter]; exact hwords⟩
    · exact ⟨ls, hran.perm hfiles, hprocesses, hwords⟩
    · trivial

/-- The ends of the pipe that a stage writes to. -/
def pipeEnds (writer : Option Nat) : List Resource := writer.toList.flatMap fun q => [.reader q, .writer q]

theorem plumbed_handOver (writer : Option Nat) (h : Plumbed set children launches before (pipeEnds writer) p s) :
    Plumbed set children launches before [] (handOver m.watched writer p s).1 (handOver m.watched writer p s).2 := by
  obtain ⟨ls, hholding, hprocesses, hwords⟩ := h.holding
  refine ⟨ls, ?_, hprocesses, hwords⟩
  have hperm : (p.resources ++ pipeEnds writer).Perm (writer.toList.map .writer ++
      (p.reader.toList.map .reader ++ (({ p with reader := writer } : Plumbing).resources ++ []))) := by
    cases writer <;> simp only [Plumbing.resources, pipeEnds] <;> grind
  have hsorted := hholding.perm hperm
  -- first the writing end is closed, then the pipe that the stage has read
  unfold handOver
  cases writer with
  | none =>
    cases hreader : p.reader with
    | none => simpa [hreader] using hsorted
    | some q =>
      rw [hreader] at hsorted
      exact hsorted.closeReader
  | some w =>
    have hclosed := hsorted.closeWriter (m := m)
    cases hreader : p.reader with
    | none => simpa [hreader] using hclosed
    | some q =>
      rw [hreader] at hclosed
      exact hclosed.closeReader

theorem afterStage_passOn (writer : Option Nat) {c : Command} {r : StageEnd × Plumbing × Shell (σ × Ledger)}
    (h : AfterStage set children launches before c (pipeEnds writer) r) :
    AfterStage set children launches before c [] (passOn m.watched writer r) := by
  obtain ⟨e, p, s⟩ := r
  cases e with
  | started => exact plumbed_handOver m writer h
  | failed f => exact plumbed_handOver m writer h
  | terminated code => trivial

theorem afterStage_startStage (h : Plumbed set children launches before [] p s) (last : Bool) (c : Command) :
    AfterStage set children launches before c [] (startStage m.watched set last c p s) := by
  rw [startStage_eq]
  split
  · exact afterStage_passOn m none (afterStage_startCommand m h c _ _)
  · obtain ⟨ls, hholding, hprocesses, hwords⟩ := h.holding
    rcases hr : m.makePipe s.fresh s.world.1 with ⟨_ | e, w⟩
    · have hpipe : m.watched.makePipe s.fresh s.world =
          (none, w, (s.world.2.take (.reader s.fresh)).take (.writer s.fresh)) := by simp [Machine.watched, hr]
      obtain ⟨hfg, hledger, hlaunches⟩ := hholding.taken w (r := .reader s.fresh) rfl
      have hwriter : (.writer s.fresh : Resource) ∉ .reader s.fresh :: (p.resources ++ []) := by
        rw [List.mem_cons, not_or]
        exact ⟨by simp, hholding.ledger.not_mem rfl⟩
      have hpiped : Plumbed set children launches before (pipeEnds (some s.fresh)) p
          ({ s with world := (w, (s.world.2.take (.reader s.fresh)).take (.writer s.fresh)), fresh := s.fresh + 1 }.note
            (.piped s.fresh)) := by
        have hboth : Holding (children ++ p.processes) (.writer s.fresh :: .reader s.fresh :: (p.resources ++ []))
            (launches ++ ls) { s with world := (w, (s.world.2.take (.reader s.fresh)).take (.writer s.fresh)),
                                      fresh := s.fresh + 1 } :=
          ⟨hfg, hledger.take hwriter (Nat.lt_succ_self _), hlaunches⟩
        refine ⟨ls, (hboth.perm ?_).note rfl, hprocesses, hwords⟩
        simp only [pipeEnds]
        grind
      simp only [hpipe]
      exact afterStage_passOn m (some s.fresh) (afterStage_startCommand m hpiped c _ _)
    · have hpipe : m.watched.makePipe s.fresh s.world = (some e, w, s.world.2) := by simp [Machine.watched, hr]
      simp only [hpipe]
      exact ⟨ls, hholding.refused w, hprocesses, hwords⟩

/-- Whatever stages are started, nothing gets lost on the way. -/
theorem plumbed_startStages (h : Plumbed set children launches before [] p s) (cs : Stages)
    (hend : ∀ code, (startStages m.watched set cs p s).1 ≠ .terminated code) :
    ∃ started, Plumbed set children launches started [] (startStages m.watched set cs p s).2.1
      (startStages m.watched set cs p s).2.2 := by
  induction cs generalizing before p s with
  | nil => exact ⟨before, h⟩
  | cons c cs ih =>
    cases c with
    | none => exact ⟨before, h⟩
    | some c =>
      unfold startStages at hend ⊢
      dsimp only at hend ⊢
      split at hend
      next hwords =>
        rw [if_pos hwords]
        exact ⟨before, h⟩
      next hwords =>
        rw [if_neg hwords]
        have hstage := afterStage_startStage m h cs.isEmpty c
        generalize startStage m.watched set cs.isEmpty c p s = r at hend hstage ⊢
        obtain ⟨_ | f | code, p', s'⟩ := r
        · exact ih hstage hend
        · exact ⟨before, hstage⟩
        · exact absurd rfl (hend code)

end

/-! ## Waiting and closing -/

section

variable {children : List Nat} {rs : List Resource} {ls : List (Nat × Launch)} {s : Shell (σ × Ledger)} {process : Nat}
  (m : Machine σ) (set : Settings)

theorem holding_reap (h : Holding children (.child process :: rs) ls s) :
    Holding children rs ls { s with world := (m.watched.reap process s.world).2 } :=
  ⟨h.foreground, h.ledger.giveBack, h.launches⟩

theorem holding_killAndReap (h : Holding (process :: children) (.child process :: rs) ls s) :
    Holding children rs ls (killAndReap m.watched set process s) := by
  have hkilled := h.stays (Shell.stays_killForeground m.watched_leaves (·.quiet) s) fun _ => Event.quiet.launch?
  rw [killAndReap_eq]
  exact ((holding_reap m hkilled).absorb m set).untrack

theorem holding_reapAll {ps : List Nat} (h : Holding (ps ++ children) (ps.map .child ++ rs) ls s) :
    Holding children rs ls (reapAll m.watched set ps s) := by
  induction ps generalizing s with
  | nil => exact h
  | cons process ps ih =>
    have hkilled : Holding (process :: (ps ++ children)) (.child process :: (ps.map .child ++ rs)) ls
        { s with world := m.watched.kill process s.world } := ⟨h.foreground, h.ledger, h.launches⟩
    unfold reapAll
    exact ih ((holding_reap m hkilled).absorb m set).untrack

theorem holding_afterWake {view : WakeView} (hended : view.ended → Holding (process :: children) rs ls s)
    (hrunning : view.ended = false → Holding (process :: children) (.child process :: rs) ls s) :
    Holding children rs ls (afterWake m.watched set process view s).2 := by
  match view with
  | .exit r => exact ((hended rfl).absorb m set).untrack
  | .signal sig (some r) =>
    have hended := hended rfl
    have htaken : Holding (process :: children) rs ls { s with interrupts := s.interrupts.receive.2 } :=
      ⟨hended.foreground, hended.ledger, hended.launches⟩
    exact (htaken.absorb m set).untrack.stays (Shell.stays_send Prod.snd sig _) fun _ => Event.quiet.launch?
  | .signal sig none =>
    have hrunning := hrunning rfl
    have htaken : Holding (process :: children) (.child process :: rs) ls { s with interrupts := s.interrupts.receive.2 } :=
      ⟨hrunning.foreground, hrunning.ledger, hrunning.launches⟩
    exact holding_killAndReap m set ((htaken.absorb m set).note rfl)
  | .cancel => exact holding_killAndReap m set ((hrunning rfl).note rfl)

/-- At the end of a wait, however it ends, the process has been waited for. -/
theorem holding_await (h : Holding (process :: children) (.child process :: rs) ls s) :
    Holding children rs ls (await m.watched set process s).2 := by
  have habsorbed := h.absorb m set
  rw [await_eq]
  generalize s.absorb m.watched set.capture = s at habsorbed ⊢
  refine holding_afterWake m set (fun hended => ⟨habsorbed.foreground, ?_, habsorbed.launches⟩)
    fun hrunning => ⟨habsorbed.foreground, ?_, habsorbed.launches⟩
  · have hledger := habsorbed.ledger.giveBack
    rwa [← if_pos (t := s.world.2.giveBack (.child process)) (e := s.world.2) hended] at hledger
  · have hledger := habsorbed.ledger
    rwa [← if_neg (t := s.world.2.giveBack (.child process)) (e := s.world.2) (ne_true_of_eq_false hrunning)] at hledger

theorem holding_awaitAll {ps : List Nat} (last : Option Ended) (h : Holding (ps ++ children) (ps.map .child ++ rs) ls s) :
    Holding children rs ls (awaitAll m.watched set ps last s).2 := by
  induction ps generalizing last s with
  | nil => exact h
  | cons process ps ih =>
    have hawait := holding_await m set h
    unfold awaitAll
    generalize await m.watched set process s = r at hawait ⊢
    obtain ⟨f | e, s'⟩ := r
    · exact holding_reapAll m set hawait
    · exact ih (some e) hawait

theorem holding_closeAll {p : Plumbing} (h : Holding children (p.files.map .file ++ p.reader.toList.map .reader) ls s) :
    Holding children [] ls (closeAll m.watched p s) := by
  have hfiles {files : List Nat} {s : Shell (σ × Ledger)} (h : Holding children (files.map .file) ls s) :
      Holding children [] ls (files.foldl (fun s file => s.closeFile m.watched file) s) := by
    induction files generalizing s with
    | nil => exact h
    | cons file files ih => exact ih h.closeFile
  unfold closeAll
  cases hreader : p.reader with
  | none =>
    rw [hreader] at h
    exact hfiles (by simpa using h)
  | some q =>
    have hsorted : Holding children (.reader q :: p.files.map .file) ls s := h.perm (by simp only [hreader]; grind)
    exact hfiles hsorted.closeReader

/-- A pipeline gives back everything that it takes, unless the shell ends in it. -/
theorem holding_runStages (h : Holding children [] ls s) (cs : Stages)
    (hend : ∀ code, (runStages m.watched set cs s).1 ≠ .terminated code) :
    ∃ ls', Holding children [] ls' (runStages m.watched set cs s).2 := by
  have hstages := plumbed_startStages m (plumbed_start set h) cs
  unfold runStages at hend ⊢
  generalize startStages m.watched set cs {} s = r at hend hstages ⊢
  obtain ⟨e, p, s'⟩ := r
  have hplumbed : ∀ started, Plumbed set children ls started [] p s' →
      ∃ ls', Holding (p.processes ++ children)
        (p.processes.map .child ++ (p.files.map .file ++ p.reader.toList.map .reader)) ls' s' := by
    rintro started ⟨ls', hholding, -⟩
    rw [List.append_nil] at hholding
    exact ⟨_, hholding.foreground.trans List.perm_append_comm, hholding.ledger, hholding.launches⟩
  cases e with
  | started =>
    obtain ⟨started, hstarted⟩ := hstages (by simp)
    obtain ⟨ls', hholding⟩ := hplumbed started hstarted
    have hawaited := holding_awaitAll m set none hholding
    dsimp only at hend ⊢
    generalize awaitAll m.watched set p.processes none s' = r at hawaited hend ⊢
    obtain ⟨f | last, s''⟩ := r
    · exact ⟨ls', holding_closeAll m hawaited⟩
    · exact ⟨ls', holding_closeAll m hawaited⟩
  | failed f =>
    obtain ⟨started, hstarted⟩ := hstages (by simp)
    obtain ⟨ls', hholding⟩ := hplumbed started hstarted
    exact ⟨ls', holding_closeAll m (holding_reapAll m set hholding)⟩
  | terminated code => exact absurd rfl (hend code)

theorem holding_runPipeline (h : Holding children [] ls s) (p : Option Stages)
    (hend : ∀ code, (runPipeline m.watched set p s).1 ≠ .terminated code) :
    ∃ ls', Holding children [] ls' (runPipeline m.watched set p s).2 := by
  match p with
  | none => exact ⟨ls, h⟩
  | some [] => exact ⟨ls, h⟩
  | some (c :: cs) =>
    cases hp : Stages.pipeline? (c :: cs) with
    | none =>
      simp only [runPipeline, hp]
      exact ⟨ls, h⟩
    | some pipeline =>
      simp only [runPipeline, hp] at hend ⊢
      exact holding_runStages m set (h.note rfl) (c :: cs) hend

end

/-! ## The moment at which a builtin runs -/

/-- From a shell to the shell that has started the first commands of a pipeline, with others still to
come. -/
inductive Reaches (m : Machine σ) (set : Settings) (s : Shell σ) : Pipeline → Plumbing → Shell σ → Prop where
  | start : Reaches m set s [] {} s
  | next {before : Pipeline} {c : Command} {p p' : Plumbing} {t t' : Shell σ} (h : Reaches m set s before p t)
      (hwords : c.words ≠ []) (hstage : startStage m set false c p t = (.started, p', t')) :
      Reaches m set s (before ++ [c]) p' t'

/-- A run passes through what it reaches. -/
theorem Reaches.startStages_eq {m : Machine σ} {set : Settings} {s t : Shell σ} {before : Pipeline} {p : Plumbing}
    (h : Reaches m set s before p t) (c : Command) (after : Pipeline) :
    startStages m set (Stages.ofPipeline (before ++ c :: after)) {} s =
      startStages m set (Stages.ofPipeline (c :: after)) p t := by
  induction h generalizing c after with
  | start => rfl
  | @next before c' p p' t t' h hwords hstage ih =>
    rw [List.append_assoc, List.singleton_append, ih c' (c :: after)]
    change startStages m set (some c' :: Stages.ofPipeline (c :: after)) p t = _
    rw [startStages]
    simp only [hwords, if_false, show (Stages.ofPipeline (c :: after)).isEmpty = false from rfl, hstage]

theorem Shell.eq_map {s : Shell σ} {t : Shell (σ × Ledger)} (h : t.map Prod.fst = s) : t = s.map (·, t.world.2) := by
  subst h
  rfl

theorem Reaches.watched {m : Machine σ} {set : Settings} {s t : Shell σ} {before : Pipeline} {p : Plumbing}
    (h : Reaches m set s before p t) (l : Ledger) :
    ∃ l', Reaches m.watched set (s.map (·, l)) before p (t.map (·, l')) := by
  induction h with
  | start => exact ⟨l, .start⟩
  | @next before c p p' t t' h hwords hstage ih =>
    obtain ⟨l', hreach⟩ := ih
    have hmap := startStage_map m.watched_hom set false c p (t.map (·, l'))
    change startStage m set false c p t = _ at hmap
    rw [hstage] at hmap
    generalize hr : startStage m.watched set false c p (t.map (·, l')) = r at hmap
    obtain ⟨e, q, u⟩ := r
    simp only [Prod.map_apply, id_eq, Prod.mk.injEq] at hmap
    obtain ⟨rfl, rfl, hu⟩ := hmap
    rw [Shell.eq_map hu.symm] at hr
    exact ⟨u.world.2, hreach.next hwords hr⟩

/-- The children when a builtin runs after the first commands of a pipeline: those from before the
pipeline, and one for each of these commands that is no builtin, in their order. -/
def ChildrenOf (set : Settings) (before : Pipeline) (s t : Shell σ) : Prop :=
  ∃ ls, t.launches = s.launches ++ ls ∧ ls.map (·.2.words) = (before.filter set.external).map Command.words ∧
    t.foreground.Perm (s.foreground ++ ls.map Prod.fst)

theorem holding_start (s : Shell σ) : Holding s.foreground [] s.launches (s.map (·, some [])) :=
  ⟨.refl _, ⟨⟨[], rfl, .nil⟩, fun _ hr => absurd hr List.not_mem_nil⟩, rfl⟩

theorem ChildrenOf.length {set : Settings} {before : Pipeline} {s t : Shell σ} (h : ChildrenOf set before s t) :
    t.foreground.length = s.foreground.length + (before.filter set.external).length := by
  obtain ⟨ls, -, hwords, hforeground⟩ := h
  have hlength := congrArg List.length hwords
  rw [List.length_map, List.length_map] at hlength
  rw [hforeground.length_eq, List.length_append, List.length_map, hlength]

/-! ## Pipelines -/

/-- A builtin that kills the children. -/
def Builtin.killer : Builtin := ⟨text "k", [], fun _ => .killAll fun _ => .finish none⟩

end AuditShell
