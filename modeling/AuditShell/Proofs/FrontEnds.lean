import AuditShell.Proofs.Json
import AuditShell.Proofs.Unseen
import AuditShell.Proofs.Output
import AuditShell.ToolServer
/-!
# What the callers of a line get

A line leaves its collected output and perhaps a failure, and there are two front ends to it. The runner passes the
output on to its streams however the line has ended. The reply of the tool server shows the output only where there is
no failure or the failure is an exit (`output_reaches_callers`). Any other failure hides what the pipelines before it
have written (`reply_hides_output`).
-/

namespace AuditShell

open ToolServer

variable {σ : Type} {m : Machine σ} {set : Settings} {rec : Recorder σ} {line : Bytes} {tree : Tree}

/-! ## The runner -/

theorem record_grows (rec : Recorder σ) (s : Session σ) (r : Audit.Record) :
    s.shell.Grows (·.isAuditFailed) (s.record rec r).shell := by
  unfold Session.record
  split
  · exact .of_eq rfl
  · split
    · exact .of_eq rfl
    · exact .note (.of_eq rfl) rfl

/-- A line whose tree has come back passes its output on, and returns what the tree has returned. -/
theorem runLine_delivers (rec : Recorder σ) (hline : Tree.ofLine line = .ok tree) {s : Session σ} {result : Result}
    {failure : Option Failure}
    (hend : (execute m set (.ofTree tree) (s.shell.note (.parsed line tree.dump))).1 = .returned (some result) failure) :
    (runLine m set rec line s).1 = .returned (some result) (failure.map .failed) ∧
      ∃ after, (runLine m set rec line s).2.shell.journal =
          (execute m set (.ofTree tree) (s.shell.note (.parsed line tree.dump))).2.journal ++
            .delivered result.stdout result.stderr :: after ∧
        ∀ e ∈ after, e.isAuditFailed := by
  rw [runLine_eq, attempt_ofTree m set line hline]
  generalize execute m set (.ofTree tree) (s.shell.note (.parsed line tree.dump)) = run at hend ⊢
  obtain ⟨e, t⟩ := run
  cases hend
  refine ⟨rfl, ?_⟩
  obtain ⟨after, hafter, hfailed⟩ := record_grows rec { s with shell := t.deliver (some result) }
    (lineRecord line (some tree.names) (some result) (failure.map .failed)
      (elapsed (rec.now s.shell.world) (rec.now (t.deliver (some result)).world)) (m.cwd s.shell.world))
  refine ⟨after, ?_, hfailed⟩
  rw [← List.singleton_append, ← List.append_assoc]
  exact hafter

/-! ## The tool server -/

namespace ToolServer

/-- The reply is a text in which a reader finds this output and this exit code. -/
def Reply.Shows (out err : Bytes) (code : Int) (r : Reply) : Prop :=
  ∃ body v, r = .text body ∧ Json.Value.parse body = some v ∧ member? "stdout" v = some (.string out) ∧
    member? "stderr" v = some (.string err) ∧ member? "exit_code" v = some (.number (Bytes.ofInt code))

theorem Reply.not_shows_failed (message out err : Bytes) (code : Int) : ¬ (Reply.failed message).Shows out err code := by
  rintro ⟨_, _, h, -⟩
  cases h

theorem call_run {arguments : Json.Value} (harguments : lineOf arguments = .ok line) {s : Session σ}
    {result : Option Result} {error : Option LineError} (h : (runLine m set rec line s).1 = .returned result error) :
    call m set rec runTool arguments s = (.replied (lineReply result error), (runLine m set rec line s).2) := by
  unfold call
  simp only [ne_eq, not_true_eq_false, if_false, harguments]
  generalize runLine m set rec line s = run at h ⊢
  obtain ⟨e, t⟩ := run
  cases h
  rfl

/-- The text of a result is read back with its output, where that is made of characters. -/
theorem resultText_shows {result : Result} (error : Option LineError) (hout : Utf8.isValid result.stdout = true)
    (herr : Utf8.isValid result.stderr = true) :
    (Reply.text (resultText (some result) error)).Shows result.stdout result.stderr (lineStatus (some result) error) := by
  have hshape : ∃ rest : List (Bytes × Json.Value), (rest = [] ∨ rest = [(text "exited", .bool true)]) ∧
      resultText (some result) error = Json.Value.compact (.object ([(text "stdout", .string result.stdout),
        (text "stderr", .string result.stderr),
        (text "exit_code", .number (Bytes.ofInt (lineStatus (some result) error)))] ++ rest)) := by
    refine ⟨_, ?_, rfl⟩
    split
    · exact .inr rfl
    · exact .inl rfl
  have hcode : ∃ cs, Json.IsNumber cs ∧ Bytes.ofInt (lineStatus (some result) error) = Utf8.encode cs :=
    ⟨_, Audit.Entry.isNumber_intChars _, Audit.Entry.ofInt_eq _⟩
  have hkeys : text "stderr" ≠ text "stdout" ∧ text "exit_code" ≠ text "stdout" ∧ text "exit_code" ≠ text "stderr" ∧
      text "exited" ≠ text "stdout" ∧ text "exited" ≠ text "stderr" ∧ text "exited" ≠ text "exit_code" := by decide
  obtain ⟨rest, hrest, hbody⟩ := hshape
  refine ⟨_, _, congrArg Reply.text hbody, Json.parse_compact ?_, ?_⟩
  · refine ⟨by decide, trivial, trivial, hcode, ?_⟩
    rcases hrest with rfl | rfl
    · trivial
    · exact ⟨trivial, trivial⟩
  · rcases hrest with rfl | rfl <;>
      simp [Json.Value.repair, Json.Value.repairMembers, member?, Utf8.repair_of_isValid hout,
        Utf8.repair_of_isValid herr, hkeys]

end ToolServer

/-! ## Both front ends -/

/-- The output of a line, through either front end. Wherever a line reads as a tree, output is collected and the exit
hook comes back, the tree comes back with its output. The runner returns it with the failure, and passes it on however
the line has ended. The tool server answers for the same run. With no failure or with an exit, its reply shows the
output, if that is made of characters, and the code of the line. With any other failure the reply is the message
alone, so it shows the output exactly where there is no failure or an exit. Without a failure, both say the same
code. -/
theorem output_reaches_callers (m : Machine σ) (set : Settings) (rec : Recorder σ) (hhook : set.hook = .returns)
    (hline : Tree.ofLine line = .ok tree) {arguments : Json.Value} (harguments : lineOf arguments = .ok line)
    (s : Session σ) :
    let run := execute m { set with capture := true } (.ofTree tree) (s.shell.note (.parsed line tree.dump))
    let ran := runLine m { set with capture := true } rec line s
    ∃ (result : Result) (failure : Option Failure), run.1 = .returned (some result) failure ∧
      ran.1 = .returned (some result) (failure.map .failed) ∧
      (∃ after, ran.2.shell.journal = run.2.journal ++ .delivered result.stdout result.stderr :: after ∧
        ∀ e ∈ after, e.isAuditFailed) ∧
      ∃ reply, call m { set with capture := true } rec runTool arguments s = (.replied reply, ran.2) ∧
        (∀ f, failure = some f → f.exitCode? = none → reply = .failed (text "crsh: " ++ f.message)) ∧
        (Utf8.isValid result.stdout = true → Utf8.isValid result.stderr = true →
          (reply.Shows result.stdout result.stderr (lineStatus (some result) (failure.map .failed)) ↔
            ∀ f, failure = some f → f.exitCode?.isSome)) ∧
        (failure = none → lineStatus (some result) (failure.map .failed) = result.exitCode) := by
  intro run ran
  obtain ⟨result, failure, hend⟩ :=
    execute_ofTree_returned m { set with capture := true } hhook tree (s.shell.note (.parsed line tree.dump))
  obtain ⟨hran, hdelivered⟩ := runLine_delivers rec hline hend
  refine ⟨result, failure, hend, hran, hdelivered, _, call_run harguments hran, ?_, fun hout herr => ?_, ?_⟩
  · rintro f rfl hexit
    simp only [lineReply, Option.map_some, LineError.exitCode?, hexit, LineError.message]
    rfl
  · constructor
    · rintro hshows f rfl
      by_contra hexit
      have hnone : f.exitCode? = none := by simpa using hexit
      simp only [lineReply, Option.map_some, LineError.exitCode?, hnone] at hshows
      exact Reply.not_shows_failed _ _ _ _ hshows
    · intro hexit
      have htext : lineReply (some result) (failure.map .failed) =
          .text (resultText (some result) (failure.map .failed)) := by
        cases failure with
        | none => rfl
        | some f => exact if_pos (hexit f rfl)
      rw [htext]
      exact resultText_shows _ hout herr
  · rintro rfl
    rfl

/-- A usage failure and an exit: the reply shows the words of both, and the code of the exit. -/
theorem output_reaches_callers_exit :
    let arguments := Json.Value.object [(text "line", .string (text "cd a b; exit 3"))]
    ∃ reply, (call (.idle _) { ({} : Settings) with capture := true } .memory runTool arguments .memory).1 = .replied reply ∧
      reply.Shows [] (text "cd: expected exactly one directory, got 2 arguments\nexit\n") 3 := by
  intro arguments
  let tree : Tree := .sequence [[⟨[text "cd", text "a", text "b"], []⟩], [⟨[text "exit", text "3"], []⟩]]
  have hline : Tree.ofLine (text "cd a b; exit 3") = .ok tree := by decide +kernel
  have harguments : lineOf arguments = .ok (text "cd a b; exit 3") := by decide +kernel
  obtain ⟨result, failure, hend, -, -, reply, hcall, -, hshows, -⟩ :=
    output_reaches_callers (.idle _) {} .memory rfl hline harguments .memory
  have hrun : (execute (.idle _) { ({} : Settings) with capture := true } (.ofTree tree)
      (Session.memory.shell.note (.parsed (text "cd a b; exit 3") tree.dump))).1 =
      .returned (some ⟨[], text "cd: expected exactly one directory, got 2 arguments\nexit\n", 0⟩) (some (.exit 3)) := by
    decide +kernel
  rw [hrun] at hend
  cases hend
  refine ⟨reply, congrArg Prod.fst hcall, (hshows (by decide +kernel) (by decide +kernel)).mpr ?_⟩
  rintro f ⟨⟩
  rfl

/-- Where no program can be started, a usage failure before it is told by the runner and not by the tool server. -/
theorem reply_hides_output :
    let m : Machine Audit.MemoryLog := { Machine.idle _ with spawn := fun _ _ w => (some (.other (text "no program")), w) }
    let start : Session Audit.MemoryLog := { Session.memory with logger := none }
    let line := text "cd a b; nosuch"
    .delivered [] (text "cd: expected exactly one directory, got 2 arguments\n") ∈
        (runLine m { capture := true } .memory line start).2.shell.journal ∧
      (call m { capture := true } .memory runTool (.object [(text "line", .string line)]) start).1 =
        .replied (.failed (text "crsh: runtime error: spawn nosuch: no program")) := by
  decide +kernel

end AuditShell
