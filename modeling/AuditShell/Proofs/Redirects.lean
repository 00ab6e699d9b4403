import AuditShell.Proofs.Journal
/-!
# What the redirects of a command open

`Machine.recorded` keeps beside the world of a machine which files, pipe ends and processes it was asked for,
and whether it granted them. `openRedirects_spec`: of each direction the last redirect counts, nothing
else is asked for, and either all of it is open in the end or none. So a redirect that is overridden, and the
order of redirects in opposite directions, make no difference (`Rearranged`).
-/

namespace AuditShell

variable {σ α : Type}

/-! ## Recorded machines -/

/-- What a machine is asked for. -/
inductive Request where
  | openRead (file : Nat) (path : Bytes)
  | openWrite (file : Nat) (append : Bool) (path : Bytes)
  | closeFile (file : Nat)
  | makePipe (pipe : Nat)
  | closeReader (pipe : Nat)
  | closeWriter (pipe : Nat)
  | spawn (process : Nat) (launch : Launch)
  deriving DecidableEq, Repr

/-- A request, and whether it was granted. -/
structure Asked where
  request : Request
  granted : Bool := true
  deriving DecidableEq, Repr

/-- A machine with a record of the requests beside its world. -/
def Machine.recorded (m : Machine σ) : Machine (σ × List Asked) where
  openRead file path w :=
    let r := m.openRead file path w.1
    (r.1, r.2, w.2 ++ [⟨.openRead file path, r.1.isNone⟩])
  openWrite file append path w :=
    let r := m.openWrite file append path w.1
    (r.1, r.2, w.2 ++ [⟨.openWrite file append path, r.1.isNone⟩])
  closeFile file w := (m.closeFile file w.1, w.2 ++ [⟨.closeFile file, true⟩])
  makePipe pipe w :=
    let r := m.makePipe pipe w.1
    (r.1, r.2, w.2 ++ [⟨.makePipe pipe, r.1.isNone⟩])
  closeReader pipe w := (m.closeReader pipe w.1, w.2 ++ [⟨.closeReader pipe, true⟩])
  closeWriter pipe w := (m.closeWriter pipe w.1, w.2 ++ [⟨.closeWriter pipe, true⟩])
  spawn process launch w :=
    let r := m.spawn process launch w.1
    (r.1, r.2, w.2 ++ [⟨.spawn process launch, r.1.isNone⟩])
  kill process w := (m.kill process w.1, w.2)
  reap process w := Prod.map id (·, w.2) (m.reap process w.1)
  wake process pending cancelled w := Prod.map id (·, w.2) (m.wake process pending cancelled w.1)
  chdir path w := Prod.map id (·, w.2) (m.chdir path w.1)
  cwd w := m.cwd w.1
  meanwhile w := Prod.map id (·, w.2) (m.meanwhile w.1)

/-- Recording the requests does not change what a machine does. -/
theorem Machine.recorded_hom (m : Machine σ) : m.recorded.Hom m Prod.fst where
  openRead _ _ _ := rfl
  openWrite _ _ _ _ := rfl
  closeFile _ _ := rfl
  makePipe _ _ := rfl
  closeReader _ _ := rfl
  closeWriter _ _ := rfl
  spawn _ _ _ := rfl
  kill _ _ := rfl
  reap _ _ := rfl
  wake _ _ _ _ := rfl
  chdir _ _ := rfl
  cwd _ := rfl
  meanwhile _ := rfl

theorem Machine.recorded_leaves (m : Machine σ) : m.recorded.Leaves Prod.snd :=
  ⟨fun _ _ => rfl, fun _ _ => rfl, fun _ => rfl⟩

/-! ## The redirects that count -/

/-- The last element of a list with a property. -/
def IsLast (p : α → Prop) (xs : List α) (x : α) : Prop :=
  ∃ before after, xs = before ++ x :: after ∧ p x ∧ ∀ y ∈ after, ¬ p y

theorem find?_reverse_eq_some {p : α → Bool} {xs : List α} {x : α} :
    xs.reverse.find? p = some x ↔ IsLast (p · = true) xs x := by
  rw [List.find?_eq_some_iff_append]
  constructor
  · rintro ⟨hx, as, bs, hxs, has⟩
    refine ⟨bs.reverse, as.reverse, ?_, hx, fun y hy => ?_⟩
    · rw [← List.reverse_reverse xs, hxs]
      simp
    · simpa using has y (List.mem_reverse.1 hy)
  · rintro ⟨before, after, rfl, hx, hafter⟩
    refine ⟨hx, after.reverse, before.reverse, by simp, fun y hy => ?_⟩
    simpa using hafter y (List.mem_reverse.1 hy)

theorem Command.input?_eq_some {c : Command} {r : Redirect} :
    c.input? = some r ↔ IsLast (·.kind = .input) c.redirects r := by
  rw [Command.input?, find?_reverse_eq_some]
  simp only [decide_eq_true_eq]

theorem isOutput_iff {k : Redirect.Kind} : k.isOutput = true ↔ k = .output ∨ k = .append := by
  cases k <;> simp [Redirect.Kind.isOutput]

theorem Command.output?_eq_some {c : Command} {r : Redirect} :
    c.output? = some r ↔ IsLast (fun r => r.kind = .output ∨ r.kind = .append) c.redirects r := by
  rw [Command.output?, find?_reverse_eq_some]
  simp only [isOutput_iff]

/-- The redirects of a command that count, in the order in which their files are opened. -/
def Command.effective (c : Command) : List Redirect := c.input?.toList ++ c.output?.toList

/-- The request to open the file of a redirect under a number. -/
def Redirect.request (file : Nat) (r : Redirect) : Request :=
  if r.kind = .input then .openRead file r.path else .openWrite file (r.kind = .append) r.path

/-- The granted requests to open the files of redirects, under numbers from `n` on. -/
def openings (n : Nat) (rs : List Redirect) : List Asked := (rs.zipIdx n).map fun x => ⟨x.1.request x.2, true⟩

/-- The events of opening the files of redirects. -/
def openedEvents (n : Nat) (rs : List Redirect) : List Event := (rs.zipIdx n).map fun x => .opened x.2 x.1

/-- The files of a command's redirects, under numbers from `n` on. -/
def Command.files (c : Command) (n : Nat) : Opened :=
  ⟨c.input?.map fun _ => n, c.output?.map fun _ => n + c.input?.toList.length⟩

/-! ## Opening them -/

/-- The later shell has opened the files of redirects, in order, and done nothing else. -/
structure OpensAll (rs : List Redirect) (s t : Shell (σ × List Asked)) : Prop where
  asked : t.world.2 = s.world.2 ++ openings s.fresh rs
  journal : t.journal = s.journal ++ openedEvents s.fresh rs
  fresh : t.fresh = s.fresh + rs.length
  foreground : t.foreground = s.foreground

/-- How opening the redirects of a command ends. -/
inductive Opening (c : Command) (s : Shell (σ × List Asked)) : Except Failure Opened → Shell (σ × List Asked) → Prop where
  /-- A redirect has no known kind, and nothing is asked for. -/
  | malformed {r : Redirect} (hr : c.redirects.find? (fun r => !r.kind.isKnown) = some r) :
      Opening c s (.error (.runtime (text "redirect") (.malformedRedirect r))) s
  /-- The files of the redirects that count are open. -/
  | opened {t : Shell (σ × List Asked)} (hk : ∀ r ∈ c.redirects, r.kind.isKnown = true)
      (hopens : OpensAll c.effective s t) : Opening c s (.ok (c.files s.fresh)) t
  /-- One of the files is refused: nothing is asked for after that but to close those that were opened before. -/
  | refused {before after : List Redirect} {r : Redirect} {e : OsError} {t : Shell (σ × List Asked)}
      (hk : ∀ r ∈ c.redirects, r.kind.isKnown = true) (heffective : c.effective = before ++ r :: after)
      (hasked : t.world.2 = s.world.2 ++ openings s.fresh before ++ ⟨r.request (s.fresh + before.length), false⟩ ::
        (List.range' s.fresh before.length).map fun file => ⟨.closeFile file, true⟩) :
      Opening c s (.error (redirectFailure r e)) t

theorem request_input {r : Redirect} (h : r.kind = .input) (file : Nat) : r.request file = .openRead file r.path :=
  if_pos h

theorem request_output {r : Redirect} (h : r.kind.isOutput = true) (file : Nat) :
    r.request file = .openWrite file (r.kind = .append) r.path := by
  refine if_neg fun hi => ?_
  rw [hi] at h
  cases h

section

variable (m : Machine σ) {c : Command} {rs : List Redirect} {s t : Shell (σ × List Asked)}

theorem OpensAll.refl (s : Shell (σ × List Asked)) : OpensAll [] s s :=
  ⟨(List.append_nil _).symm, (List.append_nil _).symm, rfl, rfl⟩

theorem OpensAll.concat (h : OpensAll rs s t) (r : Redirect) (w : σ) :
    OpensAll (rs ++ [r]) s (({ t with world := (w, t.world.2 ++ [⟨r.request t.fresh, true⟩]), fresh := t.fresh + 1 } :
      Shell (σ × List Asked)).note (.opened t.fresh r)) := by
  refine ⟨?_, ?_, ?_, h.foreground⟩
  · simp [openings, List.zipIdx_append, h.asked, h.fresh, Shell.note]
  · simp [openedEvents, List.zipIdx_append, h.journal, h.fresh, Shell.note]
  · simp [Shell.note, h.fresh, Nat.add_assoc]

/-- The output is opened after the input, which is closed again where that is refused. -/
theorem opening_openOutput (hk : ∀ r ∈ c.redirects, r.kind.isKnown = true) (h : OpensAll c.input?.toList s t) :
    Opening c s (openOutput m.recorded (c.input?.map fun _ => s.fresh) c.output? t).1
      (openOutput m.recorded (c.input?.map fun _ => s.fresh) c.output? t).2 := by
  cases hout : c.output? with
  | none =>
    have hfiles : c.files s.fresh = ⟨c.input?.map fun _ => s.fresh, none⟩ := by rw [Command.files, hout]; rfl
    have hopened : Opening c s (.ok (c.files s.fresh)) t := .opened hk (by simpa [Command.effective, hout] using h)
    rwa [hfiles] at hopened
  | some r =>
    have hr : r.request t.fresh = .openWrite t.fresh (r.kind = .append) r.path := by
      obtain ⟨-, -, -, hkind, -⟩ := Command.output?_eq_some.1 hout
      exact request_output (isOutput_iff.2 hkind) t.fresh
    have heffective : c.effective = c.input?.toList ++ [r] := by rw [Command.effective, hout]; rfl
    rcases hopen : m.openWrite t.fresh (r.kind = .append) r.path t.world.1 with ⟨_ | e, w⟩
    · have hfiles : c.files s.fresh = ⟨c.input?.map fun _ => s.fresh, some t.fresh⟩ := by
        rw [Command.files, hout, h.fresh]
        rfl
      have hopened : Opening c s (.ok (c.files s.fresh)) _ := .opened hk (heffective ▸ h.concat r w)
      rw [hfiles, hr] at hopened
      simp only [openOutput, Machine.recorded, hopen]
      exact hopened
    · simp only [openOutput, Machine.recorded, hopen]
      refine .refused hk heffective ?_
      rw [← h.fresh, ← h.asked, hr]
      cases hin : c.input? with
      | none => simp
      | some i => simp [Shell.closeFile, Shell.note]

/-- Of each direction the last redirect is opened, the input first, and all of them or none. -/
theorem opening_openRedirects (c : Command) (s : Shell (σ × List Asked)) :
    Opening c s (openRedirects m.recorded c s).1 (openRedirects m.recorded c s).2 := by
  cases hunknown : c.redirects.find? fun r => !r.kind.isKnown with
  | some r =>
    simp only [openRedirects, hunknown]
    exact .malformed hunknown
  | none =>
    have hk : ∀ r ∈ c.redirects, r.kind.isKnown = true := by simpa using hunknown
    have houtput := fun t => opening_openOutput (s := s) (t := t) m hk
    cases hin : c.input? with
    | none =>
      rw [hin] at houtput
      simp only [openRedirects, hunknown, hin]
      exact houtput s (.refl s)
    | some r =>
      rw [hin] at houtput
      have hr : r.request s.fresh = .openRead s.fresh r.path := by
        obtain ⟨-, -, -, hkind, -⟩ := Command.input?_eq_some.1 hin
        exact request_input hkind s.fresh
      rcases hopen : m.openRead s.fresh r.path s.world.1 with ⟨_ | e, w⟩
      · have hrecorded : m.recorded.openRead s.fresh r.path s.world =
            (none, w, s.world.2 ++ [⟨r.request s.fresh, true⟩]) := by simp [Machine.recorded, hopen, hr]
        simp only [openRedirects, hunknown, hin, hrecorded]
        exact houtput _ ((OpensAll.refl s).concat r w)
      · have heffective : c.effective = [] ++ r :: c.output?.toList := by rw [Command.effective, hin]; rfl
        simp only [openRedirects, hunknown, hin, Machine.recorded, hopen]
        exact .refused hk heffective (by simp [openings, hr])

end

/-! ## What a refusal leaves behind -/

/-- Something about the world that is the content of its files: opening a file for reading, closing one and
being refused do not change it. -/
structure Machine.Files (m : Machine σ) (disk : σ → α) : Prop where
  openRead : ∀ file path w, disk (m.openRead file path w).2 = disk w
  refused : ∀ file append path w, (m.openWrite file append path w).1.isSome → disk (m.openWrite file append path w).2 = disk w
  closeFile : ∀ file w, disk (m.closeFile file w) = disk w

section

variable {m : Machine σ} {disk : σ → α} (hm : m.Files disk)

include hm

theorem disk_openOutput {input : Option Nat} {r : Option Redirect} {s t : Shell σ} {f : Failure}
    (h : openOutput m input r s = (.error f, t)) : disk t.world = disk s.world := by
  cases r with
  | none => cases h
  | some r =>
    have hrefused := hm.refused s.fresh (r.kind = .append) r.path s.world
    unfold openOutput at h
    dsimp only at h
    generalize m.openWrite s.fresh (r.kind = .append) r.path s.world = answer at h hrefused
    obtain ⟨_ | e, w⟩ := answer
    · cases h
    · cases input with
      | none =>
        cases h
        exact hrefused rfl
      | some file =>
        cases h
        exact (hm.closeFile file w).trans (hrefused rfl)

/-- Where the redirects of a command are not opened, the files have the same content as before. -/
theorem disk_openRedirects {c : Command} {s t : Shell σ} {f : Failure} (h : openRedirects m c s = (.error f, t)) :
    disk t.world = disk s.world := by
  unfold openRedirects at h
  split at h
  · cases h
    rfl
  · split at h
    · exact disk_openOutput hm h
    next r _ =>
      have hread := hm.openRead s.fresh r.path s.world
      dsimp only at h
      generalize m.openRead s.fresh r.path s.world = answer at h hread
      obtain ⟨_ | e, w⟩ := answer
      · exact (disk_openOutput hm h).trans hread
      · cases h
        exact hread

end

/-! ## Redirects that make no difference -/

/-- Two lists of redirects of which the same count: one that is overridden was dropped, or two neighbours in
opposite directions have changed places, any number of times. -/
inductive Rearranged : List Redirect → List Redirect → Prop where
  | refl (rs : List Redirect) : Rearranged rs rs
  | drop {before after : List Redirect} {r : Redirect}
      (h : ∃ r' ∈ after, r'.kind.isOutput = r.kind.isOutput) : Rearranged (before ++ r :: after) (before ++ after)
  | swap {before after : List Redirect} {r r' : Redirect} (h : r.kind.isOutput ≠ r'.kind.isOutput) :
      Rearranged (before ++ r :: r' :: after) (before ++ r' :: r :: after)
  | trans {rs rs' rs'' : List Redirect} (h : Rearranged rs rs') (h' : Rearranged rs' rs'') : Rearranged rs rs''

theorem Rearranged.subset {rs rs' : List Redirect} (h : Rearranged rs rs') : rs' ⊆ rs := by
  induction h with
  | refl rs => exact List.Subset.refl rs
  | drop h => grind
  | swap h => grind
  | trans _ _ ih ih' => exact List.Subset.trans ih' ih

/-- The last redirect in each direction is the same. -/
theorem Rearranged.find?_reverse {rs rs' : List Redirect} (h : Rearranged rs rs') {p : Redirect → Bool} (output : Bool)
    (hp : ∀ r ∈ rs, p r = (r.kind.isOutput == output)) : rs'.reverse.find? p = rs.reverse.find? p := by
  induction h with
  | refl rs => rfl
  | @drop before after r h =>
    obtain ⟨r', hr', hsame⟩ := h
    have hpr : p r' = p r := by
      rw [hp r' (by simp [hr']), hp r (by simp), hsame]
    cases hr : p r with
    | false => simp [List.find?_append, hr]
    | true =>
      -- the later one is found first
      have hfound : (after.reverse.find? p).isSome := by
        rw [List.find?_isSome]
        exact ⟨r', List.mem_reverse.2 hr', hpr.trans hr⟩
      obtain ⟨x, hx⟩ := Option.isSome_iff_exists.1 hfound
      simp [List.find?_append, hx]
  | @swap before after r r' h =>
    have hne : p r ≠ p r' := by
      rw [hp r (by simp), hp r' (by simp)]
      revert h
      cases r.kind.isOutput <;> cases r'.kind.isOutput <;> cases output <;> decide
    cases hr : p r with
    | false =>
      have hr' : p r' = true := by simpa [hr] using hne
      simp [List.find?_append, hr, hr']
    | true =>
      have hr' : p r' = false := by simpa [hr] using hne
      simp [List.find?_append, hr, hr']
  | trans h _ ih ih' => exact (ih' fun r hr => hp r (h.subset hr)).trans (ih hp)

theorem openRedirects_congr (m : Machine σ) {c c' : Command} (hk : ∀ r ∈ c.redirects, r.kind.isKnown = true)
    (hk' : ∀ r ∈ c'.redirects, r.kind.isKnown = true) (hin : c'.input? = c.input?) (hout : c'.output? = c.output?)
    (s : Shell σ) : openRedirects m c' s = openRedirects m c s := by
  have hnone : c.redirects.find? (fun r => !r.kind.isKnown) = none := by simpa using hk
  have hnone' : c'.redirects.find? (fun r => !r.kind.isKnown) = none := by simpa using hk'
  simp only [openRedirects, hnone, hnone', hin, hout]

/-- Redirects of known kinds that were rearranged are opened in the same way. -/
theorem Rearranged.openRedirects_eq (m : Machine σ) {c : Command} {rs : List Redirect} (h : Rearranged c.redirects rs)
    (hk : ∀ r ∈ c.redirects, r.kind.isKnown = true) (s : Shell σ) :
    openRedirects m { c with redirects := rs } s = openRedirects m c s := by
  refine openRedirects_congr m hk (fun r hr => hk r (h.subset hr)) ?_ ?_ s
  · refine h.find?_reverse false fun r hr => ?_
    obtain ⟨_ | _ | _ | n, path⟩ := r
    · rfl
    · rfl
    · rfl
    · cases hk _ hr
  · exact h.find?_reverse true fun r _ => by simp

/-- The redirects of a command are opened all or none, the last one of each direction. A run on the
recorded machine is a run on the machine itself, and what it has asked for is that of `Opening`; a
refusal leaves the content of the files as it was; and redirects that are overridden, or stand in
another order in opposite directions, make no difference. -/
theorem openRedirects_spec (m : Machine σ) (c : Command) :
    (∀ s : Shell (σ × List Asked),
      openRedirects m c (s.map Prod.fst) = Prod.map id (Shell.map Prod.fst) (openRedirects m.recorded c s) ∧
        Opening c s (openRedirects m.recorded c s).1 (openRedirects m.recorded c s).2) ∧
    (∀ r, c.input? = some r ↔ IsLast (·.kind = .input) c.redirects r) ∧
    (∀ r, c.output? = some r ↔ IsLast (fun r => r.kind = .output ∨ r.kind = .append) c.redirects r) ∧
    (∀ disk : σ → α, m.Files disk → ∀ s t f, openRedirects m c s = (.error f, t) → disk t.world = disk s.world) ∧
    ∀ rs, Rearranged c.redirects rs → (∀ r ∈ c.redirects, r.kind.isKnown = true) →
      ∀ s, openRedirects m { c with redirects := rs } s = openRedirects m c s := by
  refine ⟨fun s => ⟨openRedirects_map m.recorded_hom c s, opening_openRedirects m c s⟩, fun r => c.input?_eq_some,
    fun r => c.output?_eq_some, fun disk hm s t f h => disk_openRedirects hm h,
    fun rs h hk s => h.openRedirects_eq m hk s⟩

/-- The idle machine whose world is the list of the files that were written, and on which one cannot be. -/
def Machine.locked (path : Bytes) : Machine (List Bytes) :=
  { Machine.idle (List Bytes) with
    openWrite := fun _ _ p w => if p = path then (some (.path (text "open") p .permissionDenied), w) else (none, w ++ [p]) }

/-- A file that is overridden is not written, and where the last one is refused nothing is. -/
theorem openRedirects_spec_refused :
    let m := Machine.locked (text "log")
    let c : Command := ⟨[text "cat"], [⟨.output, text "a"⟩, ⟨.input, text "b"⟩, ⟨.append, text "log"⟩, ⟨.input, text "c"⟩]⟩
    let s : Shell (List Bytes) := ⟨[], .new, false, [], 0, [], [], []⟩
    c.input? = some ⟨.input, text "c"⟩ ∧ (openRedirects m c s).2.world = [] ∧
      openRedirects m { c with redirects := [⟨.input, text "c"⟩, ⟨.append, text "log"⟩] } s = openRedirects m c s := by
  intro m c s
  obtain ⟨-, hin, -, hdisk, hsame⟩ := openRedirects_spec (α := List Bytes) m c
  have hfiles : m.Files id := by
    refine ⟨fun _ _ _ => rfl, fun file append path w h => ?_, fun _ _ => rfl⟩
    by_cases hp : path = text "log"
    · simp [m, Machine.locked, hp]
    · simp [m, Machine.locked, hp] at h
  refine ⟨(hin _).2 ⟨c.redirects.take 3, [], rfl, rfl, by simp⟩, hdisk id hfiles s _ _ rfl, hsame _ ?_ (by decide) s⟩
  -- `> a` and `< b` are overridden, and what is left has changed places
  have hoverridden : Rearranged ([] ++ ⟨.output, text "a"⟩ :: c.redirects.drop 1) ([] ++ c.redirects.drop 1) :=
    .drop ⟨⟨.append, text "log"⟩, by decide, rfl⟩
  have hoverridden' : Rearranged ([] ++ ⟨.input, text "b"⟩ :: c.redirects.drop 2) ([] ++ c.redirects.drop 2) :=
    .drop ⟨⟨.input, text "c"⟩, by decide, rfl⟩
  have hswapped : Rearranged ([] ++ ⟨.append, text "log"⟩ :: ⟨.input, text "c"⟩ :: [])
      ([] ++ ⟨.input, text "c"⟩ :: ⟨.append, text "log"⟩ :: []) := .swap (by decide)
  exact .trans hoverridden (.trans hoverridden' hswapped)

end AuditShell
