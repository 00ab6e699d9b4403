import AuditShell.Proofs.ExitHook
import AuditShell.Proofs.Seams
import AuditShell.Proofs.Transcript
import AuditShell.Repl
/-!
# The loop as a fold of its lines

`Repl.run_iff_ends`: where the exit hook comes back, the loop over an input is the run of its lines one after another.
It ends in one of three ways: at the first line that exits (`Ends.exit`), at a line that is too long (`Ends.tooLong`),
or at the end of the input, which exits with 0 (`Ends.finished`). What stands behind a line that exits is not read, and
lines of white space do nothing, so they may stand anywhere.

How an input falls into lines is said by `Begins`, and the states of the loop between its lines by `Plays`. Both are
taken apart at the same places, so an end of the loop names the part of the input that it has read.
-/
namespace AuditShell

variable {σ : Type}

/-! ## Lines of an input -/

/-- A piece of an input that a line is made of: it has no newline, and is shorter than the limit. -/
structure Piece (p : Bytes) : Prop where
  newline : 0x0A ∉ p
  limit : p.length < lineLimit

/-- An input begins with these lines, and then comes a rest. A line ends in a newline, without which it is the last
one. A carriage return before the end does not belong to it. -/
inductive Begins : Bytes → List Bytes → Bytes → Prop where
  | nil {rest : Bytes} : Begins rest [] rest
  | line {p more rest : Bytes} {lines : List Bytes} (hp : Piece p) (hmore : Begins more lines rest) :
      Begins (p ++ 0x0A :: more) (dropReturn p :: lines) rest
  | last {p : Bytes} (hp : Piece p) (hne : p ≠ []) : Begins p [dropReturn p] []

/-- A line of the input is too long: its newline is not among so many bytes. -/
def TooLong (input : Bytes) : Prop := lineLimit ≤ input.length ∧ 0x0A ∉ input.take lineLimit

/-- An input of whole lines: nothing stands behind its last newline. -/
def Whole (input : Bytes) : Prop := input = [] ∨ input.getLast? = some 0x0A

namespace Bytes

/-- A text is its first piece and, behind a newline, the others. -/
theorem exists_first_piece (sep : UInt8) (bs : Bytes) :
    ∃ p, sep ∉ p ∧ (bs = p ∨ ∃ more, bs = p ++ sep :: more) := by
  induction bs with
  | nil => exact ⟨[], by simp, .inl rfl⟩
  | cons b bs ih =>
    by_cases hb : b = sep
    · exact ⟨[], by simp, .inr ⟨bs, by rw [hb]; rfl⟩⟩
    · obtain ⟨p, hp, hbs⟩ := ih
      refine ⟨b :: p, by simp [Ne.symm hb, hp], ?_⟩
      rcases hbs with rfl | ⟨more, rfl⟩
      · exact .inl rfl
      · exact .inr ⟨more, rfl⟩

end Bytes

theorem inputLines_nil : inputLines [] = ([], false) := rfl

theorem inputLines_piece {p : Bytes} (hp : Piece p) (more : Bytes) :
    inputLines (p ++ 0x0A :: more) = (dropReturn p :: (inputLines more).1, (inputLines more).2) := by
  have hnot : ¬ lineLimit ≤ p.length := Nat.not_le.2 hp.limit
  have hmore : (Bytes.splitOn 0x0A more).isEmpty = false := by
    rw [List.isEmpty_eq_false_iff]
    exact Bytes.splitOn_ne_nil _ _
  rw [inputLines, Bytes.splitOn_append_sep, Bytes.splitOn_of_not_mem hp.newline, List.singleton_append, linesOfPieces,
    if_neg hnot, hmore]
  rfl

theorem inputLines_last {p : Bytes} (hp : Piece p) (hne : p ≠ []) : inputLines p = ([dropReturn p], false) := by
  have hnot : ¬ lineLimit ≤ p.length := Nat.not_le.2 hp.limit
  rw [inputLines, Bytes.splitOn_of_not_mem hp.newline, linesOfPieces, if_neg hnot]
  simp [linesOfPieces, hne]

theorem inputLines_tooLong {input : Bytes} (h : TooLong input) : inputLines input = ([], true) := by
  obtain ⟨hlength, hnewline⟩ := h
  obtain ⟨p, hp, rfl | ⟨more, rfl⟩⟩ := Bytes.exists_first_piece 0x0A input
  · rw [inputLines, Bytes.splitOn_of_not_mem hp, linesOfPieces, if_pos hlength]
  · have hlong : lineLimit ≤ p.length := by
      by_contra hshort
      refine hnewline (List.mem_take_iff_getElem.2 ⟨p.length, ?_, ?_⟩)
      · rw [List.length_append, List.length_cons]
        omega
      · simp
    rw [inputLines, Bytes.splitOn_append_sep, Bytes.splitOn_of_not_mem hp, List.singleton_append, linesOfPieces,
      if_pos hlong]

theorem Begins.inputLines_eq {input rest : Bytes} {lines : List Bytes} (h : Begins input lines rest) :
    inputLines input = (lines ++ (inputLines rest).1, (inputLines rest).2) := by
  induction h with
  | nil => rfl
  | line hp _ ih => rw [inputLines_piece hp, ih, List.cons_append]
  | last hp hne => rw [inputLines_last hp hne]; rfl

/-- Every input is a list of lines, up to its end or to a line that is too long. -/
theorem exists_begins (input : Bytes) : ∃ lines rest, Begins input lines rest ∧ (rest = [] ∨ TooLong rest) := by
  -- the rest behind the first newline is shorter, so the induction is on the length
  induction hn : input.length using Nat.strongRecOn generalizing input with
  | ind n ih =>
    obtain ⟨p, hp, hinput⟩ := Bytes.exists_first_piece 0x0A input
    by_cases hlimit : p.length < lineLimit
    · rcases hinput with rfl | ⟨more, rfl⟩
      · by_cases hne : input = []
        · exact ⟨[], input, .nil, .inl hne⟩
        · exact ⟨_, _, .last ⟨hp, hlimit⟩ hne, .inl rfl⟩
      · obtain ⟨lines, rest, hmore, hrest⟩ := ih more.length (by simp at hn; omega) more rfl
        exact ⟨_, _, .line ⟨hp, hlimit⟩ hmore, hrest⟩
    · have htake : input.take lineLimit = p.take lineLimit := by
        rcases hinput with rfl | ⟨more, rfl⟩
        · rfl
        · exact List.take_append_of_le_length (Nat.not_lt.1 hlimit)
      have hlength : p.length ≤ input.length := by
        rcases hinput with rfl | ⟨more, rfl⟩ <;> simp
      refine ⟨[], input, .nil, .inr ⟨by omega, fun hmem => hp ?_⟩⟩
      rw [htake] at hmem
      exact List.mem_of_mem_take hmem

/-- What a part of the lines leaves to the others. -/
theorem Begins.split {input rest : Bytes} {before after : List Bytes} (h : Begins input (before ++ after) rest) :
    ∃ middle, Begins input before middle ∧ Begins middle after rest := by
  generalize hlines : before ++ after = lines at h
  induction h generalizing before with
  | nil =>
    obtain ⟨rfl, rfl⟩ := List.append_eq_nil_iff.1 hlines
    exact ⟨_, .nil, .nil⟩
  | @line p more rest lines hp hmore ih =>
    rcases List.append_eq_cons_iff.1 hlines with ⟨rfl, rfl⟩ | ⟨before', rfl, rfl⟩
    · exact ⟨_, .nil, .line hp hmore⟩
    · obtain ⟨middle, hbefore, hafter⟩ := ih rfl
      exact ⟨middle, .line hp hbefore, hafter⟩
  | @last p hp hne =>
    rcases List.append_eq_cons_iff.1 hlines with ⟨rfl, rfl⟩ | ⟨before', rfl, hnil⟩
    · exact ⟨_, .nil, .last hp hne⟩
    · obtain ⟨rfl, rfl⟩ := List.append_eq_nil_iff.1 hnil.symm
      exact ⟨[], .last hp hne, .nil⟩

theorem Whole.tail {p more : Bytes} (h : Whole (p ++ 0x0A :: more)) : Whole more := by
  rcases h with h | h
  · simp at h
  · cases more with
    | nil => exact .inl rfl
    | cons b more =>
      refine .inr ?_
      simpa [List.getLast?_append, List.getLast?_cons_cons] using h

theorem Whole.not_piece {p : Bytes} (h : Whole p) (hp : Piece p) : p = [] := by
  refine h.resolve_right fun hlast => hp.newline ?_
  exact List.mem_of_getLast? hlast

/-- Behind whole lines an input goes on with any other. -/
theorem Begins.append {a rest : Bytes} {lines : List Bytes} (h : Begins a lines rest) (ha : Whole a) (b : Bytes) :
    Begins (a ++ b) lines (rest ++ b) := by
  induction h with
  | nil => exact .nil
  | @line p more rest lines hp _ ih =>
    rw [List.append_assoc, List.cons_append]
    exact .line hp (ih ha.tail)
  | last hp hne => exact absurd (ha.not_piece hp) hne

theorem TooLong.append {a : Bytes} (h : TooLong a) (b : Bytes) : TooLong (a ++ b) := by
  obtain ⟨hlength, hnewline⟩ := h
  refine ⟨by rw [List.length_append]; omega, ?_⟩
  rwa [List.take_append_of_le_length hlength]

/-- The lines of an input behind whole lines are the lines of both, unless one of the first is too long. -/
theorem inputLines_append {a : Bytes} (ha : Whole a) (b : Bytes) :
    inputLines (a ++ b) =
      if (inputLines a).2 then inputLines a else ((inputLines a).1 ++ (inputLines b).1, (inputLines b).2) := by
  -- the first half is read as it is alone, so what follows starts a line, or is behind one that is too long
  obtain ⟨lines, rest, hbegins, rfl | hlong⟩ := exists_begins a
  · rw [(hbegins.append ha b).inputLines_eq, hbegins.inputLines_eq, List.nil_append]
    simp [inputLines_nil]
  · rw [(hbegins.append ha b).inputLines_eq, hbegins.inputLines_eq, inputLines_tooLong hlong,
      inputLines_tooLong (hlong.append b)]
    rfl

/-! ## Blank lines -/

theorem Blank.dropReturn {w : Bytes} (h : Blank w) : Blank (dropReturn w) := by
  unfold AuditShell.dropReturn
  split
  next hreturn =>
    -- a carriage return is a character of its own, so the others stay when it is dropped
    obtain ⟨init, rfl⟩ := List.getLast?_eq_some_iff.1 hreturn
    have hdecode := Utf8.decode_seam (c := '\r') (by decide) init []
    rw [List.append_nil] at hdecode
    intro c hc
    rw [List.dropLast_concat] at hc
    refine h c ?_
    have hencode : Utf8.encode ['\r'] = [0x0D] := by decide
    rw [← hencode, hdecode]
    exact List.mem_append_left _ hc
  next => exact h

/-! ## Lines of the loop -/

/-- A line that is not blank comes to a result or an error. -/
theorem runLine_answers {m : Machine σ} {set : Settings} {rec : Recorder σ} {line : Bytes} (hline : ¬ Blank line)
    {s : Session σ} {result : Option Result} {error : Option LineError}
    (h : (runLine m set rec line s).1 = .returned result error) : (result.isSome || error.isSome) = true := by
  rw [runLine_eq] at h
  cases htree : Tree.ofLine line with
  | error e =>
    rw [attempt_unreadable m set line htree (not_blank_iff.1 hline)] at h
    cases h
    rfl
  | ok tree =>
    rw [attempt_ofTree m set line htree, Draft.execute_eq m set (Draft.pipelines_ofTree tree)] at h
    dsimp only at h
    generalize runSequence m set _ 0 _ = r at h
    obtain ⟨n | f | code | _, t⟩ := r <;> cases h <;> rfl

namespace Repl

variable (m : Machine σ) (set : Settings) (rec : Recorder σ) (colour : Colour)

/-- Lines have run one after another from one state of the loop to another, and none has exited. A blank line does
nothing. After any other line its failure is reported and its status kept; `ns` has these statuses in order. -/
inductive Plays : List Bytes → Repl σ → List Int → Repl σ → Prop where
  | done {r : Repl σ} : Plays [] r [] r
  | blank {line : Bytes} {lines : List Bytes} {r t : Repl σ} {ns : List Int} (hline : Blank line)
      (hrest : Plays lines r ns t) : Plays (line :: lines) r ns t
  | ran {line : Bytes} {lines : List Bytes} {r t : Repl σ} {ns : List Int} {result : Option Result}
      {error : Option LineError} {s : Session σ} (hline : ¬ Blank line)
      (hrun : runLine m set rec line r.session = (.returned result error, s))
      (hstays : error.bind LineError.exitCode? = none)
      (hrest : Plays lines { r with session := s.report colour error, status := lineStatus result error } ns t) :
      Plays (line :: lines) r (lineStatus result error :: ns) t

/-- A line exits with a code from one state of the loop to another: an exit is among its failures. The status that the
loop has kept stays. -/
inductive Exits (line : Bytes) (r : Repl σ) : Int → Repl σ → Prop where
  | intro {result : Option Result} {error : LineError} {s : Session σ} {n : Int}
      (hrun : runLine m set rec line r.session = (.returned result (some error), s)) (hexit : error.exitCode? = some n) :
      Exits line r n { r with session := s.report colour (some error) }

/-- How the loop ends over an input, and in which state. -/
inductive Ends (input : Bytes) (r : Repl σ) : End → Repl σ → Prop where
  /-- A line exits. What stands behind it is not read. -/
  | exit {lines : List Bytes} {line rest : Bytes} {ns : List Int} {t u : Repl σ} {n : Int}
      (hread : Begins input (lines ++ [line]) rest) (hplays : Plays m set rec colour lines r ns t)
      (hexit : Exits m set rec colour line t n u) : Ends input r (.code n) u
  /-- A line is too long. It is not run, nor is any behind it. -/
  | tooLong {lines : List Bytes} {rest : Bytes} {ns : List Int} {t : Repl σ} (hread : Begins input lines rest)
      (hlong : TooLong rest) (hplays : Plays m set rec colour lines r ns t) :
      Ends input r (.code 2) { t with session := t.session.report colour (some lineTooLong) }
  /-- All lines were run, and the end of the input exits. -/
  | finished {lines : List Bytes} {ns : List Int} {t u : Repl σ} (hread : Begins input lines [])
      (hplays : Plays m set rec colour lines r ns t) (hexit : Exits m set rec colour endLine t 0 u) :
      Ends input r (.code 0) u

variable {m set rec colour}

theorem handle_blank {line : Bytes} (h : Blank line) (r : Repl σ) :
    handle m set rec colour line r = (.next r.status, r) := by
  simp only [handle, runLine_blank h]
  rfl

theorem handle_ran {line : Bytes} {r : Repl σ} {result : Option Result} {error : Option LineError} {s : Session σ}
    (hline : ¬ Blank line) (hrun : runLine m set rec line r.session = (.returned result error, s))
    (hstays : error.bind LineError.exitCode? = none) :
    handle m set rec colour line r = (.next (lineStatus result error),
      { r with session := s.report colour error, status := lineStatus result error }) := by
  have hanswers := runLine_answers hline (congrArg Prod.fst hrun)
  simp only [handle, hrun, hstays, hanswers, if_true]

theorem Exits.handle_eq {line : Bytes} {r t : Repl σ} {n : Int} (h : Exits m set rec colour line r n t) :
    handle m set rec colour line r = (.done n, t) := by
  obtain ⟨hrun, hexit⟩ := h
  simp only [handle, hrun, Option.bind_some, hexit]

theorem Plays.handleAll_append {lines : List Bytes} {r t : Repl σ} {ns : List Int}
    (h : Plays m set rec colour lines r ns t) (more : List Bytes) :
    handleAll m set rec colour (lines ++ more) r = handleAll m set rec colour more t := by
  induction h with
  | done => rfl
  | blank hline _ ih =>
    rw [List.cons_append, handleAll, handle_blank hline]
    exact ih
  | ran hline hrun hstays _ ih =>
    rw [List.cons_append, handleAll, handle_ran hline hrun hstays]
    exact ih

/-- Between any two lines the loop is in a state that the first lines have led to. -/
theorem Plays.split {before after : List Bytes} {r t : Repl σ} {ns : List Int}
    (h : Plays m set rec colour (before ++ after) r ns t) :
    ∃ ks ls u, ns = ks ++ ls ∧ Plays m set rec colour before r ks u ∧ Plays m set rec colour after u ls t := by
  induction before generalizing r ns with
  | nil => exact ⟨[], ns, r, rfl, .done, h⟩
  | cons line before ih =>
    cases h with
    | blank hline hrest =>
      obtain ⟨ks, ls, u, hns, hbefore, hafter⟩ := ih hrest
      exact ⟨ks, ls, u, hns, .blank hline hbefore, hafter⟩
    | ran hline hrun hstays hrest =>
      obtain ⟨ks, ls, u, rfl, hbefore, hafter⟩ := ih hrest
      exact ⟨_ :: ks, ls, u, rfl, .ran hline hrun hstays hbefore, hafter⟩

/-- The status that the loop has kept is that of the last line that is not blank. -/
theorem Plays.status {lines : List Bytes} {r t : Repl σ} {ns : List Int} (h : Plays m set rec colour lines r ns t) :
    t.status = ns.getLast?.getD r.status := by
  induction h with
  | done => rfl
  | blank _ _ ih => exact ih
  | @ran line lines r t ns result error s _ _ _ _ ih =>
    rw [ih, List.getLast?_cons, Option.getD_some]

theorem Exits.status {line : Bytes} {r t : Repl σ} {n : Int} (h : Exits m set rec colour line r n t) :
    t.status = r.status := by
  cases h
  rfl

/-! ## Ends of the loop -/

theorem Ends.run_eq {input : Bytes} {r t : Repl σ} {e : End} (h : Ends m set rec colour input r e t) :
    run m set rec colour input r = (e, t) := by
  cases h with
  | exit hread hplays hexit =>
    unfold run
    rw [hread.inputLines_eq]
    dsimp only
    rw [List.append_assoc, hplays.handleAll_append, List.singleton_append, handleAll, hexit.handle_eq]
    rfl
  | tooLong hread hlong hplays =>
    unfold run
    rw [hread.inputLines_eq, inputLines_tooLong hlong]
    dsimp only
    rw [hplays.handleAll_append]
    rfl
  | finished hread hplays hexit =>
    unfold run
    rw [hread.inputLines_eq, inputLines_nil]
    dsimp only
    rw [hplays.handleAll_append, handleAll]
    simp only [Bool.false_eq_true, if_false, hexit.handle_eq]
    rfl

variable (m rec colour)

/-- Where the exit hook comes back, lines run to the last, or up to one that exits. -/
theorem plays_or_exits (hhook : set.hook = .returns) (lines : List Bytes) (r : Repl σ) :
    (∃ ns t, Plays m set rec colour lines r ns t) ∨
      ∃ before line after ns t n u, lines = before ++ line :: after ∧ Plays m set rec colour before r ns t ∧
        Exits m set rec colour line t n u := by
  induction lines generalizing r with
  | nil => exact .inl ⟨[], r, .done⟩
  | cons line lines ih =>
    by_cases hline : Blank line
    · rcases ih r with ⟨ns, t, hplays⟩ | ⟨before, line', after, ns, t, n, u, rfl, hplays, hexit⟩
      · exact .inl ⟨ns, t, .blank hline hplays⟩
      · exact .inr ⟨line :: before, line', after, ns, t, n, u, rfl, .blank hline hplays, hexit⟩
    · obtain ⟨result, error, hend⟩ : ∃ result error, (runLine m set rec line r.session).1 = .returned result error :=
        runLine_returned hhook hline r.session
      have hrun : runLine m set rec line r.session = (.returned result error, (runLine m set rec line r.session).2) :=
        Prod.ext hend rfl
      cases hexit : error.bind LineError.exitCode? with
      | some n =>
        obtain ⟨e, rfl, hcode⟩ := Option.bind_eq_some_iff.1 hexit
        exact .inr ⟨[], line, lines, [], r, n, _, rfl, .done, hrun, hcode⟩
      | none =>
        rcases ih { r with
            session := (runLine m set rec line r.session).2.report colour error, status := lineStatus result error } with
          ⟨ns, t, hplays⟩ | ⟨before, line', after, ns, t, n, u, rfl, hplays, hexits⟩
        · exact .inl ⟨_, t, .ran hline hrun hexit hplays⟩
        · exact .inr ⟨line :: before, line', after, _, t, n, u, rfl, .ran hline hrun hexit hplays, hexits⟩

/-- The command that the end of the input stands for. -/
def endCommand : Command := ⟨[text "exit"], []⟩

theorem execute_endCommand (hregistry : set.registry = .default) (hhook : set.hook = .returns) (s : Shell σ) :
    ∃ result, (execute m set (.ofTree (.pipeline [endCommand])) s).1 = .returned (some result) (some (.exit 0)) := by
  let begun := s.cleared m set
  let start := begun.note (.pipeline (Pipeline.render [endCommand]))
  have hd : (Draft.ofTree (.pipeline [endCommand])).pipelines =
      .ok ([] ++ some (Stages.ofPipeline [endCommand]) :: []) := rfl
  have harrives : ComesTo m set (.ofTree (.pipeline [endCommand])) s ⟨[], endCommand, [], begun, {}, {}, start⟩ :=
    ⟨hd, .nil, ⟨start, .start, rfl⟩⟩
  exact ⟨_, congrArg Prod.fst (execute_exit hregistry hhook harrives rfl .nothing)⟩

theorem endLine_exits (hregistry : set.registry = .default) (hhook : set.hook = .returns) (r : Repl σ) :
    ∃ t, Exits m set rec colour endLine r 0 t := by
  have hread : Tree.ofLine endLine = .ok (.pipeline [endCommand]) := by decide
  have hend : ∃ result,
      (runLine m set rec endLine r.session).1 = .returned (some result) (some (.failed (.exit 0))) := by
    obtain ⟨result, hresult⟩ := execute_endCommand m hregistry hhook
      (r.session.shell.note (.parsed endLine (Tree.pipeline [endCommand]).dump))
    rw [runLine_eq, attempt_ofTree m set endLine hread]
    dsimp only
    rw [hresult]
    exact ⟨result, rfl⟩
  obtain ⟨result, hresult⟩ := hend
  exact ⟨_, Prod.ext hresult rfl, rfl⟩

theorem exists_ends (hregistry : set.registry = .default) (hhook : set.hook = .returns) (input : Bytes) (r : Repl σ) :
    ∃ e t, Ends m set rec colour input r e t := by
  obtain ⟨lines, rest, hread, hrest⟩ := exists_begins input
  rcases plays_or_exits m rec colour hhook lines r with
    ⟨ns, t, hplays⟩ | ⟨before, line, after, ns, t, n, u, rfl, hplays, hexit⟩
  · rcases hrest with rfl | hlong
    · obtain ⟨u, hexit⟩ := endLine_exits m rec colour hregistry hhook t
      exact ⟨_, _, .finished hread hplays hexit⟩
    · exact ⟨_, _, .tooLong hread hlong hplays⟩
  · rw [← List.singleton_append, ← List.append_assoc] at hread
    obtain ⟨middle, hbefore, -⟩ := hread.split
    exact ⟨_, _, .exit hbefore hplays hexit⟩

/-! ## Blank lines and the rest of the input -/

variable (set)

theorem handleAll_blank {w : Bytes} (hw : Blank w) (lines more : List Bytes) (r : Repl σ) :
    handleAll m set rec colour (lines ++ w :: more) r = handleAll m set rec colour (lines ++ more) r := by
  induction lines generalizing r with
  | nil => rw [List.nil_append, handleAll, handle_blank hw, List.nil_append]
  | cons line lines ih =>
    simp only [List.cons_append, handleAll, ih]

/-- Inputs with the same lines but for blank ones come to the same. -/
theorem run_congr {a b : Bytes} {r : Repl σ} (hlong : (inputLines a).2 = (inputLines b).2)
    (hlines : handleAll m set rec colour (inputLines a).1 r = handleAll m set rec colour (inputLines b).1 r) :
    run m set rec colour a r = run m set rec colour b r := by
  simp only [run, hlong, hlines]

theorem run_insert {a w : Bytes} (ha : Whole a) (hw : Blank w) (hpiece : Piece w) (b : Bytes) (r : Repl σ) :
    run m set rec colour (a ++ (w ++ 0x0A :: b)) r = run m set rec colour (a ++ b) r := by
  apply run_congr
  · rw [inputLines_append ha, inputLines_append ha, inputLines_piece hpiece]
    split <;> rfl
  · rw [inputLines_append ha, inputLines_append ha, inputLines_piece hpiece]
    split
    · rfl
    · exact handleAll_blank m set rec colour hw.dropReturn _ _ r

theorem run_insert_last {a w : Bytes} (ha : Whole a) (hw : Blank w) (hpiece : Piece w) (r : Repl σ) :
    run m set rec colour (a ++ w) r = run m set rec colour a r := by
  by_cases hne : w = []
  · rw [hne, List.append_nil]
  apply run_congr
  · rw [inputLines_append ha, inputLines_last hpiece hne]
    split
    · rfl
    next hshort => simpa using hshort
  · rw [inputLines_append ha, inputLines_last hpiece hne]
    split
    · rfl
    · have hinserted := handleAll_blank m set rec colour hw.dropReturn (inputLines a).1 [] r
      rwa [List.append_nil] at hinserted

/-- The loop over an input is the run of its lines, one after another, up to one of its three ends. So what stands
behind a line that exits has no effect, and lines of white space have none wherever they stand, at the end of the input
too. The status that is kept between two lines is that of the last line that was not blank. A line that exits leaves it
as it was. -/
theorem run_iff_ends (hregistry : set.registry = .default) (hhook : set.hook = .returns) (r : Repl σ) :
    (∀ input e t, run m set rec colour input r = (e, t) ↔ Ends m set rec colour input r e t) ∧
    (∀ a lines line ns t n u, Whole a → Begins a (lines ++ [line]) [] → Plays m set rec colour lines r ns t →
      Exits m set rec colour line t n u → ∀ b, run m set rec colour (a ++ b) r = (.code n, u)) ∧
    (∀ a w, Whole a → Blank w → Piece w →
      (∀ b, run m set rec colour (a ++ (w ++ 0x0A :: b)) r = run m set rec colour (a ++ b) r) ∧
        run m set rec colour (a ++ w) r = run m set rec colour a r) ∧
    (∀ before after ns t, Plays m set rec colour (before ++ after) r ns t →
      ∃ ks ls u, ns = ks ++ ls ∧ Plays m set rec colour before r ks u ∧ Plays m set rec colour after u ls t ∧
        u.status = ks.getLast?.getD r.status) ∧
    ∀ line t n u, Exits m set rec colour line t n u → u.status = t.status := by
  refine ⟨fun input e t => ⟨fun hrun => ?_, Ends.run_eq⟩, ?_, ?_, ?_, fun line t n u => Exits.status⟩
  · obtain ⟨e', t', hends⟩ := exists_ends m rec colour hregistry hhook input r
    rw [hends.run_eq] at hrun
    cases hrun
    exact hends
  · intro a lines line ns t n u ha hread hplays hexit b
    exact (Ends.exit (hread.append ha b) hplays hexit).run_eq
  · intro a w ha hw hpiece
    exact ⟨fun b => run_insert m set rec colour ha hw hpiece b r, run_insert_last m set rec colour ha hw hpiece r⟩
  · intro before after ns t hplays
    obtain ⟨ks, ls, u, hns, hbefore, hafter⟩ := hplays.split
    exact ⟨ks, ls, u, hns, hbefore, hafter, hbefore.status⟩

/-- A loop with an empty log. -/
def memory : Repl Audit.MemoryLog := ⟨⟨{ world := {} }, some ⟨text "log", .start fun _ => []⟩⟩, 0, false⟩

/-- A recorder in memory, with a digest that is always empty. -/
def recorder : Recorder Audit.MemoryLog := { Recorder.memory with hash := fun _ => [] }

/-- After a usage failure and a blank line, a line exits. Without the blank line the loop ends in the same state. -/
theorem run_iff_ends_blank :
    let input := text "cd a b\n" ++ text "exit 3\necho"
    let spaced := text "cd a b\n" ++ (text " \t\r" ++ 0x0A :: text "exit 3\necho")
    let t := (run (.idle _) {} recorder .plain input memory).2
    Ends (.idle _) {} recorder .plain spaced memory (.code 3) t ∧ t.status = 1 ∧
      (Audit.Log.records (t.session.shell.world.content.getD [])).length = 2 := by
  intro input spaced t
  obtain ⟨hends, -, hblank, -⟩ := run_iff_ends (.idle _) {} recorder .plain rfl rfl memory
  have hwhole : Whole (text "cd a b\n") := .inr (by decide)
  have hspace : (Utf8.decode (text " \t\r")).all isBlank = true := by decide
  have hinsert := (hblank (text "cd a b\n") (text " \t\r") hwhole (List.all_eq_true.1 hspace) ⟨by decide, by decide⟩).1
    (text "exit 3\necho")
  have hcode : (run (.idle _) {} recorder .plain input memory).1 = .code 3 := by decide +kernel
  refine ⟨(hends _ _ _).1 ?_, by decide +kernel, by decide +kernel⟩
  rw [hinsert, ← hcode]

/-- The status of a line that exits is not kept. -/
theorem exit_keeps_status :
    ∃ result error, (runLine (.idle _) {} recorder (text "exit 3") memory.session).1 = .returned result error ∧
      lineStatus result error = 3 ∧ (handle (.idle _) {} recorder .plain (text "exit 3") memory).2.status = 0 ∧
      (run (.idle _) {} recorder .plain (text "exit 3\n") memory).2.status = 0 := by
  refine ⟨some {}, some (.failed (.exit 3)), ?_, rfl, ?_, ?_⟩ <;> decide +kernel

end Repl

end AuditShell
