import AuditShell.Proofs.Moves
/-!
# What counts as written

A journal says what was written to the streams of a line. It says so of two things only: of what the machine reports
as written, and of what builtins say while they run. A line is one episode after the other, each of them something
that was reported or a call of a builtin (`Episode`), and what the journal says was written is what was written in
the episodes (`Recounts`).

`execute_recounts`: the journal of every run of a line recounts such episodes. To have the reports on record, the run
is looked at on the machine that keeps them beside its world (`Machine.heard`).
-/

namespace AuditShell

variable {σ : Type}

/-! ## Episodes -/

/-- What the machine reports in a deed. -/
def Deed.report? : Deed → Option Happening
  | .reported h => some h
  | _ => none

/-- Something that happens while a line runs. -/
inductive Episode where
  /-- The machine reports what has happened outside. -/
  | outside (reports : List Happening)
  /-- A builtin is called, and this is done until it has returned. -/
  | call (name : Bytes) (args : List Bytes) (deeds : List Deed)

namespace Episode

/-- What is written in an episode. -/
def writings : Episode → List Writing
  | outside reports => reports.flatMap Happening.writings
  | call _ _ deeds => deeds.flatMap Deed.writings

/-- What the machine reports in an episode. -/
def reports : Episode → List Happening
  | outside reports => reports
  | call _ _ deeds => deeds.filterMap Deed.report?

/-- The call of a builtin that an episode is. -/
def call? : Episode → Option (Bytes × List Bytes)
  | outside _ => none
  | call name args _ => some (name, args)

/-- The deeds of a call are those of the builtin of that name. -/
def Holds (m : Machine σ) (set : Settings) : Episode → Prop
  | outside _ => True
  | call name args deeds => ∃ b children w w', set.registry.lookup name = some b ∧
      (b.run args).Does m set.hook children deeds w w'

end Episode

/-- The events say of the episodes which builtins were called and what was written. -/
structure Recounts (m : Machine σ) (set : Settings) (es : List Event) (episodes : List Episode) : Prop where
  writings : es.flatMap Event.writings = episodes.flatMap Episode.writings
  calls : es.filterMap Event.call? = episodes.filterMap Episode.call?
  holds : ∀ e ∈ episodes, e.Holds m set

namespace Recounts

variable {m : Machine σ} {set : Settings} {es es' : List Event} {episodes episodes' : List Episode}

theorem nil : Recounts m set [] [] := ⟨rfl, rfl, nofun⟩

theorem append (h : Recounts m set es episodes) (h' : Recounts m set es' episodes') :
    Recounts m set (es ++ es') (episodes ++ episodes') where
  writings := by rw [List.flatMap_append, List.flatMap_append, h.writings, h'.writings]
  calls := by rw [List.filterMap_append, List.filterMap_append, h.calls, h'.calls]
  holds e he := (List.mem_append.1 he).elim (h.holds e) (h'.holds e)

theorem mute {e : Event} (he : e.isMute) : Recounts m set [e] [] := by
  cases e with
  | builtin name args => cases he
  | wrote stream bytes => cases he
  | _ => exact ⟨rfl, rfl, nofun⟩

end Recounts

/-- What is written to a stream, of some writings. -/
def Stream.gets (stream : Stream) (ws : List Writing) : Bytes :=
  ws.flatMap fun w => if w.1 = stream then w.2 else []

theorem Event.flatMap_written (es : List Event) (stream : Stream) :
    es.flatMap (Event.written stream) = stream.gets (es.flatMap Event.writings) := by
  have hevent : Event.written stream = fun e => stream.gets e.writings := by
    funext e
    cases e with
    | wrote st bytes => exact (List.flatMap_singleton ..).symm
    | _ => rfl
  rw [hevent]
  exact List.flatMap_assoc.symm

/-! ## Reports on record -/

/-- A machine with a record of what it reports beside its world. -/
def Machine.heard (m : Machine σ) : Machine (σ × List Happening) :=
  { m.beside (List Happening) with
    meanwhile := fun w => ((m.meanwhile w.1).1, (m.meanwhile w.1).2, w.2 ++ (m.meanwhile w.1).1) }

variable {m : Machine σ} {set : Settings}

theorem Machine.heard_hom (m : Machine σ) : m.heard.Hom m Prod.fst := { m.fst_hom with meanwhile := fun _ => rfl }

/-- No other request changes the record. -/
theorem Machine.Serves.heard {w w' : σ × List Happening} (h : m.heard.Serves w w') : w'.2 = w.2 := by
  cases h <;> rfl

theorem kill_heard (ps : List Nat) (w : σ × List Happening) :
    ps.foldl (fun w process => m.heard.kill process w) w = (ps.foldl (fun w process => m.kill process w) w.1, w.2) := by
  induction ps generalizing w with
  | nil => rfl
  | cons p ps ih => exact ih _

/-- What an action does on the machine with the record it does on the machine, and what is reported then goes on
record. -/
theorem Action.Does.heard {hook : ExitHook} {children : List Nat} {a : Action} {ds : List Deed}
    {w w' : σ × List Happening} (h : a.Does m.heard hook children ds w w') :
    a.Does m hook children ds w.1 w'.1 ∧ w'.2 = w.2 ++ ds.filterMap Deed.report? := by
  induction h with
  | finish => exact ⟨.finish, (List.append_nil _).symm⟩
  | complain _ ih => exact ⟨.complain ih.1, ih.2⟩
  | exit hhook _ ih => exact ⟨.exit hhook ih.1, ih.2⟩
  | ended hhook => exact ⟨.ended hhook, (List.append_nil _).symm⟩
  | changeDir _ ih => exact ⟨.changeDir ih.1, ih.2⟩
  | send delivered _ ih => exact ⟨.send delivered ih.1, ih.2⟩
  | killAll _ ih =>
    obtain ⟨hdoes, hreports⟩ := ih
    rw [kill_heard] at hdoes hreports
    refine ⟨.killAll hdoes, ?_⟩
    rw [List.filterMap_append, List.filterMap_map, hreports]
    simp [Function.comp_def, Deed.report?]
  | cancel _ ih => exact ⟨.cancel ih.1, ih.2⟩
  | @meanwhile a ds w w' _ ih =>
    obtain ⟨hdoes, hreports⟩ := ih
    refine ⟨.meanwhile hdoes, ?_⟩
    have hall : ((m.heard.meanwhile w).1.map Deed.reported).filterMap Deed.report? = (m.meanwhile w.1).1 := by
      rw [List.filterMap_map]
      exact List.filterMap_some
    rw [List.filterMap_append, hall, hreports]
    exact List.append_assoc ..

/-! ## Runs -/

/-- What a shell has noted until later recounts episodes, whose reports have gone on record. -/
def Shell.RecountsUntil (m : Machine σ) (set : Settings) (s t : Shell (σ × List Happening)) : Prop :=
  ∃ es episodes, t.journal = s.journal ++ es ∧ t.world.2 = s.world.2 ++ episodes.flatMap Episode.reports ∧
    Recounts m set es episodes

namespace Shell.RecountsUntil

variable {s t u : Shell (σ × List Happening)}

theorem of_eq (hjournal : t.journal = s.journal) (hrecord : t.world.2 = s.world.2) : RecountsUntil m set s t :=
  ⟨[], [], hjournal.trans (List.append_nil _).symm, hrecord.trans (List.append_nil _).symm, .nil⟩

theorem trans (h : RecountsUntil m set s t) (h' : RecountsUntil m set t u) : RecountsUntil m set s u := by
  obtain ⟨es, episodes, hes, hrecord, hrecounts⟩ := h
  obtain ⟨es', episodes', hes', hrecord', hrecounts'⟩ := h'
  refine ⟨es ++ es', episodes ++ episodes', ?_, ?_, hrecounts.append hrecounts'⟩
  · rw [hes', hes, List.append_assoc]
  · rw [hrecord', hrecord, List.flatMap_append, List.append_assoc]

theorem absorb (s : Shell (σ × List Happening)) : RecountsUntil m set s (s.absorb m.heard set.capture) := by
  obtain ⟨es, hes, hcalls, hwritings⟩ := Shell.Notes.absorb m.heard set.capture s
  refine ⟨es, [.outside (m.meanwhile s.world.1).1], hes, ?_, ?_, hcalls, ?_⟩
  · rw [absorb_world, List.flatMap_singleton]
    rfl
  · rw [hwritings, List.flatMap_singleton]
    rfl
  · rintro e he
    rw [List.mem_singleton.1 he]
    trivial

/-- A builtin is called and runs. -/
theorem builtin (s : Shell (σ × List Happening)) {c : Command} {b : Builtin}
    (hb : set.registry.lookup c.name = some b) :
    RecountsUntil m set s (runAction m.heard set (b.run c.args) (s.note (.builtin c.name c.args))).2 := by
  obtain ⟨ds, hdoes, es, hes, hcalls, hwritings⟩ :=
    does_runAction m.heard set (b.run c.args) (s.note (.builtin c.name c.args))
  obtain ⟨hdoes, hreports⟩ := hdoes.heard
  -- the call is noted before anything is done, and no other builtin is called until it has returned
  refine ⟨.builtin c.name c.args :: es, [.call c.name c.args ds], ?_, ?_, ?_, ?_, ?_⟩
  · rw [hes]
    exact List.append_assoc ..
  · rw [hreports, List.flatMap_singleton]
    rfl
  · rw [List.flatMap_singleton, ← show _ = (Episode.call c.name c.args ds).writings from hwritings]
    rfl
  · have hcall : (Event.builtin c.name c.args :: es).filterMap Event.call? =
        (c.name, c.args) :: es.filterMap Event.call? := rfl
    rw [hcall, hcalls]
    rfl
  · rintro e he
    rw [List.mem_singleton.1 he]
    exact ⟨b, _, _, _, hb, hdoes⟩

end Shell.RecountsUntil

/-- Every move is recounted. -/
theorem Move.recounts {s t : Shell (σ × List Happening)} (h : Move m.heard set s t) : s.RecountsUntil m set t := by
  cases h with
  | absorb => exact .absorb s
  | request hw => exact .of_eq rfl hw.heard
  | own => exact .of_eq rfl rfl
  | note he => exact ⟨[_], [], rfl, (List.append_nil _).symm, .mute he⟩
  | clear => exact .of_eq rfl rfl
  | builtin hb => exact .builtin s hb

theorem Moves.recounts {s t : Shell (σ × List Happening)} (h : Moves m.heard set s t) : s.RecountsUntil m set t := by
  induction h with
  | refl => exact .of_eq rfl rfl
  | tail _ hmove ih => exact ih.trans hmove.recounts

theorem ready_world (m : Machine σ) (set : Settings) (s : Shell σ) :
    (s.ready m set).world = (m.meanwhile s.world).2 := by
  have hdropped (t : Shell σ) : t.dropStale.world = t.world := by
    unfold Shell.dropStale
    dsimp only
    split <;> rfl
  exact (hdropped _).trans (absorb_world m set.capture s)

/-- From when a line gets its streams, its journal recounts episodes. What the machine has reported by the end of the
line is what it reported before that, and then in the episodes. -/
theorem execute_recounts (m : Machine σ) (set : Settings) (d : Draft) (s : Shell σ) :
    ∃ es episodes, (execute m set d s).2.journal = (s.ready m set).journal ++ es ∧ Recounts m set es episodes ∧
      execute m.heard set d (s.map (·, [])) =
        Prod.map id (Shell.map (·, (m.meanwhile s.world).1 ++ episodes.flatMap Episode.reports)) (execute m set d s) := by
  let s' : Shell (σ × List Happening) := s.map (·, [])
  have hview := Shell.hom_map m.heard_hom set
  have hready : s.ready m set = (s'.ready m.heard set).map Prod.fst :=
    (congrArg Shell.dropStale (Shell.absorb_view hview s')).trans (dropStale_view hview _)
  -- seen without its record, the run with the record is the run itself
  have hrun : execute m set d s = Prod.map id (Shell.map Prod.fst) (execute m.heard set d s') :=
    execute_map m.heard_hom set d s'
  obtain ⟨es, episodes, hes, hrecord, hrecounts⟩ := (moves_execute m.heard set d s').recounts
  rw [ready_world] at hrecord
  refine ⟨es, episodes, ?_, hrecounts, ?_⟩
  · rw [hrun, hready]
    exact hes
  · rw [hrun, ← show _ = (m.meanwhile s.world).1 ++ episodes.flatMap Episode.reports from hrecord]
    rfl

end AuditShell
