import AuditShell.Proofs.Redirects
import AuditShell.Proofs.Sequence
import Mathlib.Data.List.Nodup
import Mathlib.Data.List.Pairwise
/-!
# What the stages of a pipeline read and write

A stage that has started is described by the numbers that it got: of the pipe to the next stage, of the files
of its redirects, and of its process (`Stage`). What it reads and writes follows from these and from the stage
before it (`Stage.launch`), and so does everything that it asks of the machine and that is noted for it.

`runPipeline_wiring`: whenever the stages of a pipeline have all started, the machine was asked for what these
descriptions say, stage after stage, and for nothing else of its kind. So only the last stage can write to the standard
output of the line, and a stage after a redirected one reads a pipe that nobody writes to.
-/

namespace AuditShell

variable {σ β : Type}

/-! ## Stages that have started -/

/-- What a stage runs as. -/
inductive Role where
  | process (number : Nat)
  /-- A builtin, with what was noted while it ran. -/
  | builtin (noted : List Event)

/-- The process of a stage that is no builtin. -/
def Role.process? : Role → Option Nat
  | process number => some number
  | builtin _ => none

/-- A stage that has started, with the numbers that it got. -/
structure Stage where
  command : Command
  /-- The pipe to the next stage. -/
  pipe : Option Nat
  /-- The file of the input redirect that counts. -/
  input : Option (Nat × Redirect)
  /-- The file of the output redirect that counts. -/
  output : Option (Nat × Redirect)
  role : Role

namespace Stage

/-- The files of a stage in the order in which they are opened. -/
def files (x : Stage) : List (Nat × Redirect) := x.input.toList ++ x.output.toList

/-- The numbers of a stage in the order in which they are given out. -/
def numbers (x : Stage) : List Nat := x.pipe.toList ++ (x.files.map Prod.fst ++ x.role.process?.toList)

/-- Where a stage writes to. -/
def stdout (x : Stage) : Sink :=
  match x.output, x.pipe with
  | some (file, _), _ => .file file
  | none, some pipe => .pipe pipe
  | none, none => .line

theorem length_numbers (x : Stage) :
    x.numbers.length = x.pipe.toList.length + (x.files.length + x.role.process?.toList.length) := by
  rw [numbers, List.length_append, List.length_append, List.length_map]

section

variable (before : Option Stage) (x : Stage)

/-- Where a stage reads from that comes after another one or after none. -/
def stdin : Source :=
  match x.input, before.bind pipe with
  | some (file, _), _ => .file file
  | none, some pipe => .pipe pipe
  | none, none => .shell

/-- What the process of a stage is started for. -/
def launch : Launch := ⟨x.command.words, x.stdin before, x.stdout, .err⟩

/-- The process of a stage with what it is started for. -/
def launches : List (Nat × Launch) := x.role.process?.toList.map (·, x.launch before)

/-- What is noted where a stage runs. -/
def running : List Event :=
  match x.role with
  | .process number => [.spawned number (x.launch before)]
  | .builtin noted => .builtin x.command.name x.command.args :: noted

/-- What is noted for a stage: its pipe is made, its files are opened, it runs, and the pipe ends that it has
taken over are closed. -/
def events : List Event :=
  x.pipe.toList.map .piped ++ (x.files.map (fun f => .opened f.1 f.2) ++ x.running before ++
    (x.pipe.toList.map .writerClosed ++ (before.bind pipe).toList.map .readerClosed))

/-- What is asked of the machine for a stage. -/
def requests : List Request :=
  x.pipe.toList.map .makePipe ++ (x.files.map (fun f => f.2.request f.1) ++
    (x.launches before).map (fun l => .spawn l.1 l.2) ++
    (x.pipe.toList.map .closeWriter ++ (before.bind pipe).toList.map .closeReader))

end

/-- What goes with each stage, given the stage before it, one after the other. -/
def along (f : Option Stage → Stage → List β) : Option Stage → List Stage → List β
  | _, [] => []
  | before, x :: xs => f before x ++ along f (some x) xs

theorem along_append (f : Option Stage → Stage → List β) (before : Option Stage) (xs ys : List Stage) :
    along f before (xs ++ ys) = along f before xs ++ along f (xs.getLast?.or before) ys := by
  induction xs generalizing before with
  | nil => rfl
  | cons x xs ih =>
    have hlast : (x :: xs).getLast?.or before = xs.getLast?.or (some x) := by
      rw [List.getLast?_cons]
      cases xs.getLast? <;> rfl
    rw [List.cons_append, along, ih, along, hlast, List.append_assoc]

theorem mem_along {f : Option Stage → Stage → List β} {before : Option Stage} {xs : List Stage} {b : β}
    (h : b ∈ along f before xs) : ∃ x ∈ xs, ∃ before, b ∈ f before x := by
  induction xs generalizing before with
  | nil => cases h
  | cons x xs ih =>
    rcases List.mem_append.1 h with h | h
    · exact ⟨x, List.mem_cons_self .., before, h⟩
    · obtain ⟨y, hy, hb⟩ := ih h
      exact ⟨y, List.mem_cons_of_mem x hy, hb⟩

theorem stderr_of_mem_launches {before : Option Stage} {x : Stage} {l : Nat × Launch} (h : l ∈ x.launches before) :
    l.2.stderr = .err := by
  obtain ⟨process, -, rfl⟩ := List.mem_map.1 h
  rfl

end Stage

/-- What a command runs as. -/
inductive Role.Of (set : Settings) (c : Command) : Role → Prop where
  | process (h : set.external c = true) (number : Nat) : Role.Of set c (.process number)
  | builtin (h : set.external c = false) {noted : List Event} {n : Nat} (hnoted : ∀ e ∈ noted, e.OfBuiltin n) :
      Role.Of set c (.builtin noted)

/-- A stage is what its command and its place ask for. -/
structure Stage.Fits (set : Settings) (last : Bool) (x : Stage) : Prop where
  /-- A pipe is made for a process that is not the last one. -/
  pipe : x.pipe.isSome = (set.external x.command && !last)
  input : ∀ r, x.input.map Prod.snd = some r ↔ IsLast (·.kind = .input) x.command.redirects r
  output : ∀ r, x.output.map Prod.snd = some r ↔
    IsLast (fun r => r.kind = .output ∨ r.kind = .append) x.command.redirects r
  role : x.role.Of set x.command

theorem Stage.Fits.filterMap_events {set : Settings} {last : Bool} {x : Stage} (h : x.Fits set last)
    (before : Option Stage) : (x.events before).filterMap Event.launch? = x.launches before := by
  have hrunning : (x.running before).filterMap Event.launch? = x.launches before := by
    have hrole := h.role
    unfold Stage.running Stage.launches
    generalize x.role = role at hrole
    cases hrole with
    | process => rfl
    | builtin _ hnoted =>
      refine List.filterMap_eq_nil_iff.2 fun e he => ?_
      rcases List.mem_cons.1 he with rfl | he
      · rfl
      · exact Event.OfBuiltin.launch? (hnoted e he)
  simp [Stage.events, List.filterMap_append, List.filterMap_map, Function.comp_def, hrunning, Event.launch?]

/-- The stage of a command whose files have numbers from `n` on. -/
def Stage.of (c : Command) (pipe : Option Nat) (n : Nat) (role : Role) : Stage :=
  ⟨c, pipe, c.input?.map (n, ·), c.output?.map (n + c.input?.toList.length, ·), role⟩

theorem Stage.files_of (c : Command) (pipe : Option Nat) (n : Nat) (role : Role) :
    (Stage.of c pipe n role).files = (c.effective.zipIdx n).map Prod.swap := by
  unfold Stage.of Stage.files Command.effective
  cases c.input? <;> cases c.output? <;> rfl

theorem Stage.fits_of {set : Settings} {last : Bool} {c : Command} {pipe : Option Nat} {n : Nat} {role : Role}
    (hpipe : pipe.isSome = (set.external c && !last)) (hrole : role.Of set c) :
    (Stage.of c pipe n role).Fits set last where
  pipe := hpipe
  input r := by
    rw [← Command.input?_eq_some, Stage.of, Option.map_map]
    cases c.input? <;> rfl
  output r := by
    rw [← Command.output?_eq_some, Stage.of, Option.map_map]
    cases c.output? <;> rfl
  role := hrole

/-! ## Starting a stage -/

/-- Requests that were all granted. -/
def granted (qs : List Request) : List Asked := qs.map (⟨·, true⟩)

/-- The later shell has noted these events, has been granted these requests and no others, and has given out `k`
numbers. -/
structure Adds (es : List Event) (qs : List Request) (k : Nat) (s t : Shell (σ × List Asked)) : Prop where
  journal : t.journal = s.journal ++ es
  asked : t.world.2 = s.world.2 ++ granted qs
  fresh : t.fresh = s.fresh + k

theorem Adds.trans {es es' : List Event} {qs qs' : List Request} {k k' : Nat} {s t u : Shell (σ × List Asked)}
    (h : Adds es qs k s t) (h' : Adds es' qs' k' t u) : Adds (es ++ es') (qs ++ qs') (k + k') s u where
  journal := by rw [h'.journal, h.journal, List.append_assoc]
  asked := by rw [h'.asked, h.asked, List.append_assoc, granted, granted, granted, List.map_append]
  fresh := by rw [h'.fresh, h.fresh, Nat.add_assoc]

theorem Adds.refl (s : Shell (σ × List Asked)) : Adds [] [] 0 s s :=
  ⟨(List.append_nil _).symm, (List.append_nil _).symm, rfl⟩

theorem OpensAll.adds {c : Command} {s t : Shell (σ × List Asked)} (h : OpensAll c.effective s t) (pipe : Option Nat)
    (role : Role) :
    let x := Stage.of c pipe s.fresh role
    Adds (x.files.map fun f => .opened f.1 f.2) (x.files.map fun f => f.2.request f.1) x.files.length s t where
  journal := by
    rw [h.journal, openedEvents, Stage.files_of, List.map_map]
    rfl
  asked := by
    rw [h.asked, openings, granted, Stage.files_of, List.map_map, List.map_map]
    rfl
  fresh := by
    rw [h.fresh, Stage.files_of, List.length_map, List.length_zipIdx]

/-- A stage has started after another one. -/
structure Stage.Starts (set : Settings) (last : Bool) (before : Option Stage) (x : Stage) (s t : Shell (σ × List Asked)) :
    Prop where
  fits : x.Fits set last
  adds : Adds (x.events before) (x.requests before) x.numbers.length s t
  numbers : x.numbers = List.range' s.fresh x.numbers.length

section

variable {m : Machine σ} {set : Settings} {last : Bool} {before : Option Stage} {c : Command} {pipe : Option Nat}
  {p p' : Plumbing} {s t : Shell (σ × List Asked)}

theorem Stage.stdin_of (pipe : Option Nat) (n : Nat) (role : Role) :
    (Stage.of c pipe n role).stdin before =
      ((c.files n).input.map Source.file).getD (((before.bind Stage.pipe).map Source.pipe).getD .shell) := by
  unfold Stage.stdin Stage.of Command.files
  cases c.input? <;> cases before.bind Stage.pipe <;> rfl

theorem Stage.stdout_of (pipe : Option Nat) (n : Nat) (role : Role) :
    (Stage.of c pipe n role).stdout = ((c.files n).output.map Sink.file).getD ((pipe.map Sink.pipe).getD .line) := by
  unfold Stage.stdout Stage.of Command.files
  cases c.output? <;> cases pipe <;> rfl

theorem adds_spawnStage {stdin : Source} {stdout : Sink} {files : List Nat}
    (h : spawnStage m.recorded c stdin stdout files p s = (.started, p', t)) :
    p'.reader = p.reader ∧
      Adds [.spawned s.fresh ⟨c.words, stdin, stdout, .err⟩] [.spawn s.fresh ⟨c.words, stdin, stdout, .err⟩] 1 s t := by
  rcases hspawn : m.spawn s.fresh ⟨c.words, stdin, stdout, .err⟩ s.world.1 with ⟨_ | e, w⟩
  · simp only [spawnStage, Machine.recorded, hspawn] at h
    cases h
    exact ⟨rfl, rfl, rfl, rfl⟩
  · simp only [spawnStage, Machine.recorded, hspawn] at h
    cases h

/-- The files of a command are opened before it runs. -/
theorem adds_startCommand
    (h : startCommand m.recorded set c (((before.bind Stage.pipe).map Source.pipe).getD .shell)
      ((pipe.map Sink.pipe).getD .line) p s = (.started, p', t)) :
    p'.reader = p.reader ∧ ∃ role : Role, role.Of set c ∧
      role.process?.toList = List.range' (s.fresh + c.effective.length) role.process?.toList.length ∧
      let x := Stage.of c pipe s.fresh role
      Adds (x.files.map (fun f => .opened f.1 f.2) ++ x.running before)
        (x.files.map (fun f => f.2.request f.1) ++ (x.launches before).map fun l => .spawn l.1 l.2)
        (x.files.length + role.process?.toList.length) s t := by
  have hopening := opening_openRedirects m c s
  rcases hopen : openRedirects m.recorded c s with ⟨f | o, u⟩
  · simp only [startCommand, hopen] at h
    cases h
  rw [hopen] at hopening
  cases hopening with
  | opened hk hopens =>
    cases hlookup : set.registry.lookup c.name with
    | none =>
      simp only [startCommand, hopen, hlookup] at h
      rw [← Stage.stdin_of pipe s.fresh (.process u.fresh), ← Stage.stdout_of pipe s.fresh (.process u.fresh)] at h
      obtain ⟨hreader, hspawned⟩ := adds_spawnStage h
      refine ⟨hreader, .process u.fresh, .process (by simp [Settings.external, hlookup]) _, ?_,
        (hopens.adds pipe (.process u.fresh)).trans hspawned⟩
      rw [← hopens.fresh]
      rfl
    | some b =>
      rw [startCommand_builtin m.recorded set hopen hlookup] at h
      simp only [Prod.mk.injEq] at h
      obtain ⟨-, rfl, rfl⟩ := h
      have hran := stays_runAction m.recorded_leaves set (b.run c.args) (u.note (.builtin c.name c.args))
      obtain ⟨noted, hjournal, hnoted⟩ := hran.journal
      refine ⟨rfl, .builtin noted, .builtin (by simp [Settings.external, hlookup]) hnoted, rfl, ?_⟩
      have hbuiltin : Adds (.builtin c.name c.args :: noted) [] 0 u
          (runAction m.recorded set (b.run c.args) (u.note (.builtin c.name c.args))).2 := by
        refine ⟨?_, ?_, hran.fresh⟩
        · rw [hjournal, Shell.note, List.append_assoc, List.singleton_append]
        · exact hran.world.trans (List.append_nil _).symm
      exact (hopens.adds pipe (.builtin noted)).trans hbuiltin

/-- The shell's own pipe ends are closed once a stage has taken them over. -/
theorem adds_handOver (m : Machine σ) (pipe : Option Nat) (p : Plumbing) (s : Shell (σ × List Asked)) :
    Adds (pipe.toList.map .writerClosed ++ p.reader.toList.map .readerClosed)
      (pipe.toList.map .closeWriter ++ p.reader.toList.map .closeReader) 0 s (handOver m.recorded pipe p s).2 := by
  have hwriter (q : Nat) : Adds [.writerClosed q] [.closeWriter q] 0 s (s.closeWriter m.recorded q) := ⟨rfl, rfl, rfl⟩
  have hreader (q : Nat) (s : Shell (σ × List Asked)) :
      Adds [.readerClosed q] [.closeReader q] 0 s (s.closeReader m.recorded q) := ⟨rfl, rfl, rfl⟩
  unfold handOver
  cases pipe with
  | none =>
    cases p.reader with
    | none => exact .refl s
    | some q => exact hreader q s
  | some w =>
    cases p.reader with
    | none => exact hwriter w
    | some q => exact (hwriter w).trans (hreader q _)

theorem Stage.numbers_of {n : Nat} {role : Role} (hpipe : pipe.toList = List.range' n pipe.toList.length)
    (hprocess : role.process?.toList =
      List.range' (n + pipe.toList.length + c.effective.length) role.process?.toList.length) :
    let x := Stage.of c pipe (n + pipe.toList.length) role
    x.numbers = List.range' n x.numbers.length := by
  have happend {xs ys : List Nat} {n : Nat} (hxs : xs = List.range' n xs.length)
      (hys : ys = List.range' (n + xs.length) ys.length) : xs ++ ys = List.range' n (xs ++ ys).length := by
    rw [List.length_append, ← List.range'_append_1, ← hxs, ← hys]
  have hlength : ((Stage.of c pipe (n + pipe.toList.length) role).files.map Prod.fst).length = c.effective.length := by
    rw [Stage.files_of, List.length_map, List.length_map, List.length_zipIdx]
  refine happend hpipe (happend ?_ ?_)
  · rw [hlength, Stage.files_of, List.map_map]
    exact List.zipIdx_map_snd ..
  · rwa [hlength]

/-- A stage starts once its pipe is made. -/
theorem starts_passOn {u : Shell (σ × List Asked)} (hbefore : p.reader = before.bind Stage.pipe)
    (hpipe : pipe.isSome = (set.external c && !last)) (hnumber : pipe.toList = List.range' s.fresh pipe.toList.length)
    (hpiped : Adds (pipe.toList.map .piped) (pipe.toList.map .makePipe) pipe.toList.length s u)
    (h : passOn m.recorded pipe (startCommand m.recorded set c ((p.reader.map Source.pipe).getD .shell)
      ((pipe.map Sink.pipe).getD .line) p u) = (.started, p', t)) :
    ∃ x : Stage, x.command = c ∧ p'.reader = x.pipe ∧ x.Starts set last before s t := by
  rw [hbefore] at h
  rcases hstart : startCommand m.recorded set c _ ((pipe.map Sink.pipe).getD .line) p u with ⟨_ | f | code, q, v⟩
  · obtain ⟨hreader, role, hrole, hprocess, hran⟩ := adds_startCommand hstart
    rw [hstart] at h
    have hover := adds_handOver m pipe q v
    simp only [passOn, Prod.mk.injEq, true_and] at h
    rw [h, hreader, hbefore] at hover
    rw [hpiped.fresh] at hprocess hran
    refine ⟨.of c pipe (s.fresh + pipe.toList.length) role, rfl, ?_, Stage.fits_of hpipe hrole, ?_,
      Stage.numbers_of hnumber hprocess⟩
    · exact (congrArg (fun r : Plumbing × Shell _ => r.1.reader) h).symm
    · have hadds := hpiped.trans (hran.trans hover)
      rwa [Stage.events, Stage.requests, Stage.length_numbers]
  · rw [hstart] at h
    cases h
  · rw [hstart] at h
    cases h

/-- A stage that starts does what its numbers and the stage before it say. -/
theorem starts_startStage (hbefore : p.reader = before.bind Stage.pipe)
    (h : startStage m.recorded set last c p s = (.started, p', t)) :
    ∃ x : Stage, x.command = c ∧ p'.reader = x.pipe ∧ x.Starts set last before s t := by
  rw [startStage_eq] at h
  split at h
  next hlast =>
    have hpipe : (none : Option Nat).isSome = (set.external c && !last) := by
      unfold Settings.external
      revert hlast
      cases last <;> cases set.registry.lookup c.name <;> simp
    exact starts_passOn hbefore hpipe rfl (.refl s) h
  next hlast =>
    have hpipe : (some s.fresh).isSome = (set.external c && !last) := by
      unfold Settings.external
      revert hlast
      cases last <;> cases set.registry.lookup c.name <;> simp
    rcases hmake : m.makePipe s.fresh s.world.1 with ⟨_ | e, w⟩
    · have hrecorded : m.recorded.makePipe s.fresh s.world = (none, w, s.world.2 ++ [⟨.makePipe s.fresh, true⟩]) := by
        simp [Machine.recorded, hmake]
      rw [hrecorded] at h
      exact starts_passOn hbefore hpipe rfl ⟨rfl, rfl, rfl⟩ h
    · have hrecorded : m.recorded.makePipe s.fresh s.world = (some e, w, s.world.2 ++ [⟨.makePipe s.fresh, false⟩]) := by
        simp [Machine.recorded, hmake]
      rw [hrecorded] at h
      cases h

end

/-! ## Starting all stages -/

/-- Stages have started one after the other. -/
inductive StartsAll (set : Settings) :
    Option Stage → List Stage → Shell (σ × List Asked) → Shell (σ × List Asked) → Prop where
  | nil {before : Option Stage} {s : Shell (σ × List Asked)} : StartsAll set before [] s s
  | cons {before : Option Stage} {x : Stage} {xs : List Stage} {s t u : Shell (σ × List Asked)}
      (hx : x.Starts set xs.isEmpty before s t) (hxs : StartsAll set (some x) xs t u) : StartsAll set before (x :: xs) s u

namespace StartsAll

variable {set : Settings} {before : Option Stage} {xs : List Stage} {s t : Shell (σ × List Asked)}

theorem adds (h : StartsAll set before xs s t) :
    Adds (Stage.along Stage.events before xs) (Stage.along Stage.requests before xs) (xs.flatMap Stage.numbers).length
      s t := by
  induction h with
  | nil => exact .refl _
  | cons hx hxs ih =>
    rw [List.flatMap_cons, List.length_append]
    exact hx.adds.trans ih

theorem numbers (h : StartsAll set before xs s t) :
    xs.flatMap Stage.numbers = List.range' s.fresh (xs.flatMap Stage.numbers).length := by
  induction h with
  | nil => rfl
  | @cons _ x xs s _ _ hx hxs ih =>
    rw [List.flatMap_cons, List.length_append, ← List.range'_append_1, ← hx.adds.fresh, ← ih, ← hx.numbers]

theorem filterMap_events (h : StartsAll set before xs s t) :
    (Stage.along Stage.events before xs).filterMap Event.launch? = Stage.along Stage.launches before xs := by
  induction h with
  | nil => rfl
  | cons hx hxs ih => rw [Stage.along, List.filterMap_append, hx.fits.filterMap_events, ih, Stage.along]

theorem fits (h : StartsAll set before xs s t) {ys zs : List Stage} {x : Stage} (hxs : xs = ys ++ x :: zs) :
    x.Fits set zs.isEmpty := by
  induction h generalizing ys with
  | nil => simp at hxs
  | cons hx hxs' ih =>
    cases ys with
    | nil =>
      cases hxs
      exact hx.fits
    | cons y ys =>
      cases hxs
      exact ih rfl

end StartsAll

theorem startsAll_startStages {m : Machine σ} {set : Settings} {before : Option Stage} {cs : Pipeline} {p p' : Plumbing}
    {s t : Shell (σ × List Asked)} (hbefore : p.reader = before.bind Stage.pipe)
    (h : startStages m.recorded set (Stages.ofPipeline cs) p s = (.started, p', t)) :
    ∃ xs : List Stage, xs.map Stage.command = cs ∧ StartsAll set before xs s t := by
  -- between two stages the plumbing holds the pipe of the stage that has started last
  induction cs generalizing before p s with
  | nil =>
    cases h
    exact ⟨[], rfl, .nil⟩
  | cons c cs ih =>
    change startStages m.recorded set (some c :: Stages.ofPipeline cs) p s = _ at h
    unfold startStages at h
    dsimp only at h
    split at h
    · cases h
    · rcases hstart : startStage m.recorded set (Stages.ofPipeline cs).isEmpty c p s with ⟨_ | f | code, q, u⟩
      · rw [hstart] at h
        obtain ⟨x, rfl, hreader, hx⟩ := starts_startStage hbefore hstart
        have hnext : q.reader = (some x).bind Stage.pipe := hreader
        obtain ⟨xs, rfl, hxs⟩ := ih hnext h
        have hlast : (Stages.ofPipeline (xs.map Stage.command)).isEmpty = xs.isEmpty := by cases xs <;> rfl
        rw [hlast] at hx
        exact ⟨x :: xs, rfl, .cons hx hxs⟩
      · rw [hstart] at h
        cases h
      · rw [hstart] at h
        cases h

/-! ## Pipelines -/

/-- The stages of a pipeline that have all started. -/
structure Wired (set : Settings) (xs : List Stage) : Prop where
  fits : ∀ before x after, xs = before ++ x :: after → x.Fits set after.isEmpty
  /-- Pipes, files and processes all have numbers of their own. -/
  numbers : (xs.flatMap Stage.numbers).Nodup

namespace Wired

variable {set : Settings} {xs : List Stage}

/-- Only the last stage can write to the standard output of the line. -/
theorem stdout_eq_line (h : Wired set xs) {before after : List Stage} {x : Stage} (hxs : xs = before ++ x :: after)
    (hx : set.external x.command) : x.stdout = .line ↔ after = [] ∧ x.output = none := by
  have hpipe := (h.fits before x after hxs).pipe
  rw [hx, Bool.true_and] at hpipe
  unfold Stage.stdout
  cases x.output <;> cases hp : x.pipe <;> simp_all

/-- A pipe belongs to one stage. -/
theorem pipe_inj (h : Wired set xs) {x y : Stage} {pipe : Nat} (hx : x ∈ xs) (hy : y ∈ xs) (hxp : x.pipe = some pipe)
    (hyp : y.pipe = some pipe) : x = y := by
  have : Std.Symm (Function.onFun List.Disjoint Stage.numbers) := ⟨fun _ _ h _ hx hy => h hy hx⟩
  have hdisjoint := (List.nodup_flatMap.1 h.numbers).2.forall hx hy
  refine Classical.byContradiction fun hne => hdisjoint hne (a := pipe) ?_ ?_
  · simp [Stage.numbers, hxp]
  · simp [Stage.numbers, hyp]

/-- After a stage whose output goes to a file, the next one reads a pipe that no process writes to and that
the shell has closed for writing before. -/
theorem after_output (h : Wired set xs) {before after : List Stage} {x y : Stage} {process : Nat}
    (hxs : xs = before ++ x :: y :: after) (hx : set.external x.command) (hout : x.output.isSome) (hin : y.input = none)
    (hy : y.role = .process process) :
    ∃ pipe, y.stdin (some x) = .pipe pipe ∧ (∀ l ∈ Stage.along Stage.launches none xs, l.2.stdout ≠ .pipe pipe) ∧
      [Request.closeWriter pipe, .spawn process (y.launch (some x))].Sublist (Stage.along Stage.requests none xs) := by
  have hpipe := (h.fits before x (y :: after) hxs).pipe
  rw [hx] at hpipe
  obtain ⟨pipe, hpipe⟩ := Option.isSome_iff_exists.1 hpipe
  have hmem : x ∈ xs := by simp [hxs]
  refine ⟨pipe, by simp [Stage.stdin, hin, hpipe], fun l hl hstdout => ?_, ?_⟩
  · obtain ⟨z, hz, before, hl⟩ := Stage.mem_along hl
    obtain ⟨n, -, rfl⟩ := List.mem_map.1 hl
    -- whoever writes to the pipe is the stage itself, and that writes to its file
    have hzp : z.output = none ∧ z.pipe = some pipe := by
      change z.stdout = .pipe pipe at hstdout
      unfold Stage.stdout at hstdout
      cases hzo : z.output <;> cases hzp : z.pipe <;> simp_all
    rw [h.pipe_inj hmem hz hpipe hzp.2, hzp.1] at hout
    cases hout
  · have hrequests : Stage.along Stage.requests none xs = Stage.along Stage.requests none before ++
        (x.requests before.getLast? ++ (y.requests (some x) ++ Stage.along Stage.requests (some y) after)) := by
      rw [hxs, Stage.along_append, Option.or_none]
      rfl
    have hclose : [Request.closeWriter pipe].Sublist (x.requests before.getLast?) :=
      List.singleton_sublist.2 (by simp [Stage.requests, hpipe])
    have hspawn : [Request.spawn process (y.launch (some x))].Sublist (y.requests (some x)) :=
      List.singleton_sublist.2 (by simp [Stage.requests, Stage.launches, hy, Role.process?])
    rw [hrequests]
    exact (hclose.append (hspawn.trans (List.sublist_append_left ..))).trans (List.sublist_append_right ..)

end Wired

theorem launches_runPipeline {m : Machine σ} {set : Settings} {cs : Pipeline} {s t : Shell σ} {p : Plumbing}
    (h : startStages m set (Stages.ofPipeline cs) {} (s.note (.pipeline (Pipeline.render cs))) = (.started, p, t)) :
    (runPipeline m set (some (Stages.ofPipeline cs)) s).2.launches = t.launches := by
  have hnoted : (s.note (.pipeline (Pipeline.render cs))).launches = s.launches := by
    simp [Shell.launches, Shell.note, Event.launch?]
  cases cs with
  | nil =>
    cases h
    exact hnoted.symm
  | cons c cs =>
    have hp : Stages.pipeline? (some c :: Stages.ofPipeline cs) = some (c :: cs) := Stages.pipeline?_ofPipeline (c :: cs)
    change startStages m set (some c :: Stages.ofPipeline cs) {} _ = _ at h
    change (runPipeline m set (some (some c :: Stages.ofPipeline cs)) s).2.launches = _
    simp only [runPipeline, hp, runStages, h]
    have hawaited := grows_awaitAll m set p.processes none t
    generalize awaitAll m set p.processes none t = r at hawaited ⊢
    have hclosed := (hawaited.trans (grows_closeAll m p r.2)).quiet_launches
    obtain ⟨f | last, u⟩ := r
    · exact hclosed
    · exact hclosed

/-- Whenever the stages of a pipeline have all started, they are described by the numbers that they got: the run
has asked the machine for what these descriptions say, from left to right, and for no other file, pipe or
process. A stage reads the file of its last input redirect, or else the pipe of the stage before it, which there
is unless that is a builtin, or else what the shell reads. It writes to the file of its last output redirect, or
else to its pipe, which there is unless it is the last one, or else to the standard output of the line. A builtin
runs once the files of its redirects are open. -/
theorem runPipeline_wiring (m : Machine σ) (set : Settings) (cs : Pipeline) (s : Shell σ) (p : Plumbing) (t : Shell σ)
    (hstarted : startStages m set (Stages.ofPipeline cs) {} (s.note (.pipeline (Pipeline.render cs))) = (.started, p, t)) :
    ∃ xs : List Stage, xs.map Stage.command = cs ∧ Wired set xs ∧
      t.journal = (s.note (.pipeline (Pipeline.render cs))).journal ++ Stage.along Stage.events none xs ∧
      startStages m.recorded set (Stages.ofPipeline cs) {} ((s.note (.pipeline (Pipeline.render cs))).map (·, [])) =
        (.started, p, t.map (·, granted (Stage.along Stage.requests none xs))) ∧
      (runPipeline m set (some (Stages.ofPipeline cs)) s).2.launches = s.launches ++ Stage.along Stage.launches none xs ∧
      (∀ l ∈ Stage.along Stage.launches none xs, l.2.stderr = .err) ∧
      (∀ before x after, xs = before ++ x :: after → set.external x.command →
        (x.stdout = .line ↔ after = [] ∧ x.output = none)) ∧
      ∀ before x y after process, xs = before ++ x :: y :: after → set.external x.command → x.output.isSome →
        y.input = none → y.role = .process process →
        ∃ pipe, y.stdin (some x) = .pipe pipe ∧ (∀ l ∈ Stage.along Stage.launches none xs, l.2.stdout ≠ .pipe pipe) ∧
          [Request.closeWriter pipe, .spawn process (y.launch (some x))].Sublist
            (Stage.along Stage.requests none xs) := by
  have hlaunches := launches_runPipeline hstarted
  generalize hstart : s.note (.pipeline (Pipeline.render cs)) = start at hstarted ⊢
  have hmap := startStages_view (Shell.hom_map m.recorded_hom set) (Stages.ofPipeline cs) {} (start.map (·, []))
  change startStages m set (Stages.ofPipeline cs) {} start = _ at hmap
  rw [hstarted] at hmap
  rcases hrun : startStages m.recorded set (Stages.ofPipeline cs) {} (start.map (·, [])) with ⟨e, q, u⟩
  rw [hrun] at hmap
  simp only [Prod.map_apply, id_eq, Prod.mk.injEq] at hmap
  obtain ⟨rfl, rfl, rfl⟩ := hmap
  have hreader : ({} : Plumbing).reader = (none : Option Stage).bind Stage.pipe := rfl
  obtain ⟨xs, hcommands, hxs⟩ := startsAll_startStages hreader hrun
  have hadds := hxs.adds
  have hwired : Wired set xs := by
    refine ⟨fun before x after hsplit => hxs.fits hsplit, ?_⟩
    rw [hxs.numbers]
    exact List.nodup_range'
  refine ⟨xs, hcommands, hwired, hadds.journal, ?_, ?_, fun l hl => ?_,
    fun before x after hsplit => hwired.stdout_eq_line hsplit,
    fun before x y after process hsplit => hwired.after_output hsplit⟩
  · have hasked : u.world.2 = granted (Stage.along Stage.requests none xs) := hadds.asked
    rw [← hasked]
    rfl
  · rw [hlaunches, Shell.launches]
    have hjournal : (u.map Prod.fst).journal = start.journal ++ Stage.along Stage.events none xs := hadds.journal
    rw [hjournal, List.filterMap_append, hxs.filterMap_events, ← hstart]
    simp [Shell.launches, Shell.note, Event.launch?]
  · obtain ⟨x, -, before, hx⟩ := Stage.mem_along hl
    exact Stage.stderr_of_mem_launches hx

/-- In `a > f | b | k | c` the second process reads the empty pipe of the first one, and the last one, after a
builtin, reads what the shell reads. -/
theorem runPipeline_wiring_builtin :
    let set : Settings := { registry := Registry.empty.register .killer }
    let s : Shell Unit := ⟨(), .new, false, [], 0, [], [], []⟩
    let cs : Pipeline := [⟨[text "a"], [⟨.output, text "f"⟩]⟩, ⟨[text "b"], []⟩, ⟨[text "k"], []⟩, ⟨[text "c"], []⟩]
    let start := s.note (.pipeline (Pipeline.render cs))
    (startStages (.idle Unit) set (Stages.ofPipeline cs) {} start).1 = .started ∧
      ∃ xs : List Stage, xs.map Stage.command = cs ∧ Wired set xs ∧
        Stage.along Stage.launches none xs =
          [(2, ⟨[text "a"], .shell, .file 1, .err⟩), (4, ⟨[text "b"], .pipe 0, .pipe 3, .err⟩),
            (5, ⟨[text "c"], .shell, .line, .err⟩)] := by
  intro set s cs start
  obtain ⟨xs, hcommands, hwired, -, -, hlaunches, -⟩ := runPipeline_wiring (.idle Unit) set cs s _ _ rfl
  refine ⟨rfl, xs, hcommands, hwired, ?_⟩
  have hnone : s.launches = [] := rfl
  rw [hnone, List.nil_append] at hlaunches
  rw [← hlaunches]
  decide +kernel

end AuditShell
