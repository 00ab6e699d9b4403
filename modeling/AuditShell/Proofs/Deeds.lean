import AuditShell.Proofs.Journal
/-!
# What a builtin does

A builtin is a tree of actions, and which branch it takes depends on the answers that it gets. `Action.Does` says
what an action does, one thing after the other, in a shell that has certain children: what it says, whom it has
killed, where it goes, and what the machine reports in between. To kill the children is one request for each of
them, and the builtin learns how many they were.

`does_runAction`: a shell that carries out an action does just this, and what it notes as written is what the
builtin has said and the machine has reported.
-/

namespace AuditShell

variable {σ : Type}

/-! ## Writes -/

/-- A write to a stream of the line. -/
abbrev Writing := Stream × Bytes

/-- The write, unless there is nothing in it. -/
def writing (stream : Stream) (bytes : Bytes) : List Writing := if bytes = [] then [] else [(stream, bytes)]

/-- What is written where something happens outside. -/
def Happening.writings : Happening → List Writing
  | .wrote stream bytes => writing stream bytes
  | _ => []

/-- What an event says was written. -/
def Event.writings : Event → List Writing
  | .wrote stream bytes => [(stream, bytes)]
  | _ => []

/-- The call of a builtin that an event notes. -/
def Event.call? : Event → Option (Bytes × List Bytes)
  | .builtin name args => some (name, args)
  | _ => none

/-- The later shell has noted events that call no builtin and say that this was written. -/
def Shell.Notes (ws : List Writing) (s t : Shell σ) : Prop :=
  ∃ es, t.journal = s.journal ++ es ∧ es.filterMap Event.call? = [] ∧ es.flatMap Event.writings = ws

namespace Shell.Notes

variable {s t u : Shell σ} {ws ws' : List Writing}

theorem of_eq (h : t.journal = s.journal) : Notes [] s t := ⟨[], h.trans (List.append_nil _).symm, rfl, rfl⟩

theorem of_event (e : Event) (h : t.journal = s.journal ++ [e]) (hcall : e.call? = none) : Notes e.writings s t :=
  ⟨[e], h, by simp [hcall], List.flatMap_singleton ..⟩

theorem trans (h : Notes ws s t) (h' : Notes ws' t u) : Notes (ws ++ ws') s u := by
  obtain ⟨es, hes, hcalls, rfl⟩ := h
  obtain ⟨es', hes', hcalls', rfl⟩ := h'
  refine ⟨es ++ es', ?_, ?_, List.flatMap_append⟩
  · rw [hes', hes, List.append_assoc]
  · rw [List.filterMap_append, hcalls, hcalls', List.append_nil]

theorem write (capture : Bool) (stream : Stream) (bytes : Bytes) (s : Shell σ) :
    Notes (writing stream bytes) s (s.write capture stream bytes) := by
  have hjournal := Shell.write_journal capture stream bytes s
  unfold writing
  split at hjournal
  next hbytes =>
    rw [if_pos hbytes]
    exact .of_eq hjournal
  next hbytes =>
    rw [if_neg hbytes]
    exact .of_event _ hjournal rfl

theorem flush (set : Settings) (s : Shell σ) : Notes [] s (s.flush set) := by
  have hstream (b : Bool) (stream : Stream) (s : Shell σ) : Notes [] s (if b then s.flushStream stream else s) := by
    cases b with
    | true => cases stream <;> exact .of_event (.flushed _ _) rfl rfl
    | false => exact .of_eq rfl
  exact (hstream _ .out s).trans (hstream _ .err _)

theorem happen (capture : Bool) (h : Happening) (s : Shell σ) : Notes h.writings s (s.happen capture h) := by
  cases h with
  | wrote stream bytes => exact write capture stream bytes s
  | sent sig => exact .of_event (.sent sig _) rfl rfl
  | cancelled => exact .of_eq rfl

/-- What has happened outside is noted as it was reported. -/
theorem absorb (m : Machine σ) (capture : Bool) (s : Shell σ) :
    Notes ((m.meanwhile s.world).1.flatMap Happening.writings) s (s.absorb m capture) := by
  have hfold (hs : List Happening) (t : Shell σ) :
      Notes (hs.flatMap Happening.writings) t (hs.foldl (Shell.happen capture) t) := by
    induction hs generalizing t with
    | nil => exact .of_eq rfl
    | cons h hs ih => exact (happen capture h t).trans (ih _)
  have hworld : Notes [] s { s with world := (m.meanwhile s.world).2 } := .of_eq rfl
  exact hworld.trans (hfold (m.meanwhile s.world).1 _)

end Shell.Notes

/-! ## Deeds -/

/-- One thing that is done while a builtin runs. -/
inductive Deed where
  /-- The machine reports it. -/
  | reported (h : Happening)
  /-- The builtin says it, on the standard error of the line. -/
  | said (message : Bytes)
  /-- The machine is asked to kill a child. -/
  | killed (process : Nat)
  /-- The machine is asked to change the working directory. -/
  | moved (path : Bytes)
  deriving DecidableEq, Repr

/-- What is written where a deed is done. -/
def Deed.writings : Deed → List Writing
  | .reported h => h.writings
  | .said message => writing .err message
  | _ => []

/-- What an action does in a shell that has these children, while the machine gets from one world to another. -/
inductive Action.Does (m : Machine σ) (hook : ExitHook) (children : List Nat) : Action → List Deed → σ → σ → Prop where
  | finish {failure : Option Failure} {w : σ} : Does m hook children (.finish failure) [] w w
  | complain {message : Bytes} {next : Action} {ds : List Deed} {w w' : σ} (h : Does m hook children next ds w w') :
      Does m hook children (.complain message next) (.said message :: ds) w w'
  | exit {code : Int} {next : Action} {ds : List Deed} {w w' : σ} (hhook : hook = .returns)
      (h : Does m hook children next ds w w') : Does m hook children (.exit code next) ds w w'
  /-- The shell ends at once. -/
  | ended {code : Int} {next : Action} {w : σ} (hhook : hook = .terminates) :
      Does m hook children (.exit code next) [] w w
  | changeDir {path : Bytes} {next : Option OsError → Action} {ds : List Deed} {w w' : σ}
      (h : Does m hook children (next (m.chdir path w).1) ds (m.chdir path w).2 w') :
      Does m hook children (.changeDir path next) (.moved path :: ds) w w'
  | send {sig : Signal} {next : Bool → Action} {ds : List Deed} {w w' : σ} (delivered : Bool)
      (h : Does m hook children (next delivered) ds w w') : Does m hook children (.send sig next) ds w w'
  /-- Each child is killed, one after the other, and the builtin learns how many they are. -/
  | killAll {next : Nat → Action} {ds : List Deed} {w w' : σ}
      (h : Does m hook children (next children.length) ds (children.foldl (fun w process => m.kill process w) w) w') :
      Does m hook children (.killAll next) (children.map .killed ++ ds) w w'
  | cancel {next : Action} {ds : List Deed} {w w' : σ} (h : Does m hook children next ds w w') :
      Does m hook children (.cancel next) ds w w'
  | meanwhile {a : Action} {ds : List Deed} {w w' : σ} (h : Does m hook children a ds (m.meanwhile w).2 w') :
      Does m hook children a ((m.meanwhile w).1.map .reported ++ ds) w w'

theorem writings_reported (hs : List Happening) :
    (hs.map Deed.reported).flatMap Deed.writings = hs.flatMap Happening.writings := by
  rw [List.flatMap_map]
  rfl

theorem writings_killed (ps : List Nat) : (ps.map Deed.killed).flatMap Deed.writings = [] := by
  rw [List.flatMap_map]
  exact List.flatMap_eq_nil_iff.2 fun _ _ => rfl

section

variable (m : Machine σ) (set : Settings)

/-- What an action has done in the run of a shell, and that this is what the shell has noted as written. -/
structure Done (a : Action) (ds : List Deed) (s t : Shell σ) : Prop where
  does : a.Does m set.hook s.foreground ds s.world t.world
  notes : Shell.Notes (ds.flatMap Deed.writings) s t

variable {m set}

/-- An action that goes on in a later shell, where neither the world nor the children have changed. -/
theorem Done.after {a : Action} {ds : List Deed} {ws : List Writing} {P : Event → Prop} {s t u : Shell σ}
    (h : Done m set a ds t u) (hstays : s.Stays id P t) (hnotes : Shell.Notes ws s t) :
    a.Does m set.hook s.foreground ds s.world u.world ∧ Shell.Notes (ws ++ ds.flatMap Deed.writings) s u := by
  obtain ⟨hdoes, hlater⟩ := h
  rw [hstays.foreground, show t.world = s.world from hstays.world] at hdoes
  exact ⟨hdoes, hnotes.trans hlater⟩

/-- An action before which the shell takes in what has happened outside. -/
theorem Done.meanwhile {a : Action} {ds : List Deed} {s t : Shell σ} (h : Done m set a ds (s.absorb m set.capture) t) :
    Done m set a ((m.meanwhile s.world).1.map .reported ++ ds) s t := by
  obtain ⟨hdoes, hnotes⟩ := h
  refine ⟨?_, ?_⟩
  · rw [(Shell.stays_absorb m.leaves_unit set.capture s).foreground, absorb_world] at hdoes
    exact .meanwhile hdoes
  · rw [List.flatMap_append, writings_reported]
    exact (Shell.Notes.absorb m set.capture s).trans hnotes

variable (m set)

/-- A shell that carries out an action does what the action says. -/
theorem does_runAction (a : Action) (s : Shell σ) : ∃ ds, Done m set a ds s (runAction m set a s).2 := by
  -- before it says something, ends the shell or sends a signal, a builtin looks at what has happened outside
  induction a generalizing s with
  | finish failure => exact ⟨[], .finish, .of_eq rfl⟩
  | complain message next ih =>
    let t := s.absorb m set.capture
    obtain ⟨ds, hdone⟩ := ih (t.write set.capture .err message)
    obtain ⟨hdoes, hnotes⟩ := hdone.after (Shell.stays_write id set.capture .err message t) (.write set.capture .err message t)
    exact ⟨_, Done.meanwhile ⟨.complain hdoes, hnotes⟩⟩
  | exit code next ih =>
    let t := s.absorb m set.capture
    let hooked := (t.flush set).note (.exitHook code)
    have hstays : t.Stays id (fun _ => True) hooked :=
      ((Shell.stays_flush id set t).mono fun _ _ => trivial).trans (.note trivial _)
    have hnoted : Shell.Notes [] t hooked := (Shell.Notes.flush set t).trans (.of_event (.exitHook code) rfl rfl)
    unfold runAction
    cases hhook : set.hook with
    | returns =>
      obtain ⟨ds, hdone⟩ := ih hooked
      obtain ⟨hdoes, hnotes⟩ := hdone.after hstays hnoted
      exact ⟨_, Done.meanwhile ⟨.exit hhook hdoes, hnotes⟩⟩
    | terminates =>
      have hended : (Action.exit code next).Does m set.hook t.foreground [] t.world hooked.world := by
        rw [show hooked.world = t.world from hstays.world]
        exact .ended hhook
      exact ⟨_, Done.meanwhile ⟨hended, hnoted⟩⟩
  | changeDir path next ih =>
    obtain ⟨ds, hdoes, hnotes⟩ := ih (m.chdir path s.world).1 { s with world := (m.chdir path s.world).2 }
    have hmoved : Shell.Notes [] s { s with world := (m.chdir path s.world).2 } := .of_eq rfl
    exact ⟨_, .changeDir hdoes, hmoved.trans hnotes⟩
  | send sig next ih =>
    let t := s.absorb m set.capture
    obtain ⟨ds, hdone⟩ := ih (t.send sig).1 (t.send sig).2
    obtain ⟨hdoes, hnotes⟩ := hdone.after (Shell.stays_send id sig t) (.of_event (.sent sig _) rfl rfl)
    exact ⟨_, Done.meanwhile ⟨.send _ hdoes, hnotes⟩⟩
  | killAll next ih =>
    let t := (s.killForeground m).note (.killed s.foreground.length)
    obtain ⟨ds, hdoes, hnotes⟩ := ih s.foreground.length t
    have hkilled : Shell.Notes [] s t := .of_event (.killed _) rfl rfl
    refine ⟨_, .killAll hdoes, ?_⟩
    rw [List.flatMap_append, writings_killed]
    exact hkilled.trans hnotes
  | cancel next ih =>
    obtain ⟨ds, hdoes, hnotes⟩ := ih { s with cancelled := true }
    exact ⟨ds, .cancel hdoes, hnotes⟩

end

end AuditShell
