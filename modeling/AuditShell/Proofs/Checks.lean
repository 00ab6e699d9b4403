import AuditShell.Proofs.Failing
import AuditShell.Proofs.ReadBack
/-!
# Checks that no line fails

The shell checks the trees that it is handed over: a root, pipelines and commands must be there, and each redirect
must be of a known kind. The reader checks that it is not asked for more tokens than there are.
`ofLine_passes_checks`: a line fails none of these. The tree of a line has no defect, so what its run fails with comes
from the system or from a builtin. Where a line is not read, the error is that of a character or a token of the line
(`SyntaxError.Within`).
-/
namespace AuditShell

variable {σ : Type}

/-! ## Failures about a tree -/

/-- The tree that was handed over is not one of a line. -/
def RuntimeCause.isMalformed : RuntimeCause → Bool
  | .emptyPipeline => true
  | .nilSequence => true
  | .unexpectedRoot => true
  | .emptyCommand => true
  | .malformedRedirect _ => true
  | _ => false

/-- The failure of an operation that found the tree malformed. -/
def Failure.isMalformed : Failure → Bool
  | .runtime _ cause => cause.isMalformed
  | _ => false

/-- How a pipeline of a line can fail: for a reason of the system, or as the builtin that one of its commands names. -/
inductive LineFails (r : Registry) (p : Pipeline) (f : Failure) : Prop where
  | system (h : f.OfSystem)
  | builtin {c : Command} {b : Builtin} (hc : c ∈ p) (hb : r.lookup c.name = some b) (h : (b.run c.args).Fails f)

theorem Command.WellFormed.not_defect {c : Command} (hc : c.WellFormed) (f : Failure) : ¬ c.Defect f := by
  rintro (hwords | ⟨-, hr⟩)
  · exact hc.1 hwords
  · have hkind := List.find?_some hr
    rw [hc.2 _ (List.mem_of_find?_eq_some hr)] at hkind
    cases hkind

theorem StageFails.of_wellFormed {r : Registry} {p : Pipeline} {f : Failure} (h : StageFails r p f)
    (hp : ∀ c ∈ p, c.WellFormed) : LineFails r p f := by
  cases h with
  | system h => exact .system h
  | defect hc h => exact absurd h ((hp _ hc).not_defect f)
  | builtin hc hb h => exact .builtin hc hb h

theorem Failure.OfSystem.not_malformed {f : Failure} (h : f.OfSystem) : f.isMalformed = false := by
  cases h <;> rfl

/-- With `cd` and `exit` alone, no failure of a line says, or stands around one that says, that the tree is malformed. -/
theorem LineFails.not_malformed {p : Pipeline} {f : Failure} (h : LineFails .default p f) :
    ∀ g ∈ f.chain, g.isMalformed = false := by
  cases h with
  | system h =>
    rw [h.chain_eq, List.forall_mem_singleton]
    exact h.not_malformed
  | builtin _ hb h =>
    rcases Registry.default_fails hb h with ⟨detail, rfl⟩ | ⟨n, rfl⟩
    · simp [Failure.chain, Failure.isMalformed]
    · simp [Failure.chain, Failure.isMalformed]

theorem Stages.ofPipeline_injective {p q : Pipeline} (h : Stages.ofPipeline p = Stages.ofPipeline q) : p = q :=
  List.map_injective_iff.2 (fun _ _ => Option.some.inj) h

theorem lineFails_execute (m : Machine σ) (set : Settings) {tree : Tree} (ht : tree.WellFormed) {s : Shell σ}
    {result : Option Result} {f : Failure} (h : (execute m set (.ofTree tree) s).1 = .returned result (some f)) :
    ∃ p ∈ tree.pipelines, LineFails set.registry p f := by
  obtain ⟨before, stages, after, ns, t, hpipelines, -, hfailed⟩ :=
    exists_failed_pipeline m set (Draft.pipelines_ofTree tree) h
  have hstages : stages ∈ tree.pipelines.map fun p => some (Stages.ofPipeline p) := hpipelines ▸ by simp
  obtain ⟨p, hp, rfl⟩ := List.mem_map.1 hstages
  obtain ⟨hne, hcommands⟩ := ht.1 p hp
  rcases runPipeline_fails m set hfailed with ⟨hempty | hempty, -⟩ | ⟨q, hq, hfails⟩
  · cases hempty
  · exact absurd (Stages.ofPipeline_injective (q := []) (Option.some.inj hempty)) hne
  · cases Stages.ofPipeline_injective (Option.some.inj hq)
    exact ⟨p, hp, hfails.of_wellFormed hcommands⟩

/-! ## Lines that are not read -/

/-- Where and why a text of `n` characters is not a line: at a character of it that starts no token, or at a token
that is not expected or left over, which starts in the text or is the mark of its end. -/
inductive SyntaxError.Within (n : Nat) : SyntaxError → Prop where
  | scan {e : ScanError} (kind : e.kind = .emptyToken) (start : 0 ≤ e.pos) (stop : e.pos < n) : Within n (.scan e)
  | parse {e : ParseError} (kind : e.kind = .unexpectedToken ∨ e.kind = .tokensLeft) (start : 0 ≤ e.token.pos)
      (stop : e.token.pos ≤ n) : Within n (.parse e)

namespace Tree

theorem readToken_finish {t : Token} (ht : t.kind = .finish) (place : Place) (p : Progress) :
    ∃ r, readToken place p t = .stop r := by
  cases place <;> simp [readToken, atRedirect, atFile, afterCommand, ht]

/-- The reader goes beyond no mark of the end, so among tokens with a mark it stops at one of them. -/
theorem ofTokensFrom_marked {place : Place} {p : Progress} {ts : List Token} {e : ParseError}
    (hmark : ∃ t ∈ ts, t.kind = .finish) (h : ofTokensFrom place p ts = .error e) :
    (e.kind = .unexpectedToken ∨ e.kind = .tokensLeft) ∧ e.token ∈ ts := by
  induction ts generalizing place p with
  | nil =>
    obtain ⟨t, ht, -⟩ := hmark
    cases ht
  | cons a ts ih =>
    obtain ⟨t, ht, hfinish⟩ := hmark
    rw [ofTokensFrom] at h
    cases hread : readToken place p a with
    | go place' p' =>
      rw [hread] at h
      have hrest : t ∈ ts := by
        rcases List.mem_cons.1 ht with rfl | ht
        · obtain ⟨r, hstop⟩ := readToken_finish hfinish place p
          cases hread.symm.trans hstop
        · exact ht
      exact (ih ⟨t, hrest, hfinish⟩ h).imp_right (List.mem_cons_of_mem a)
    | stop r =>
      rw [hread] at h
      dsimp only at h
      subst h
      rcases Grammar.readToken_stop hread with ⟨-, -, tree, ⟨⟩⟩ | ⟨_, ⟨⟩, hrefuses⟩
      cases hrefuses with
      | leftOver _ hk htoken => exact ⟨.inr hk, htoken ▸ List.mem_cons_self⟩
      | unexpected _ hk htoken => exact ⟨.inl hk, htoken ▸ List.mem_cons_self⟩

theorem ofLine_within {line : Bytes} {e : SyntaxError} (h : ofLine line = .error e) :
    e.Within (Utf8.decode line).length := by
  unfold ofLine Token.scan at h
  -- the line is cut into tokens up to its end, or up to a character that starts none
  obtain ⟨ls, tail, hcuts, rfl | ⟨c, rest, rfl, hc⟩⟩ := exists_cuts (Utf8.decode line)
  · have hline := hcuts.line_eq
    rw [scanChars_of_cuts hcuts] at h
    dsimp only at h
    rw [List.append_nil] at hline
    cases hparse : ofTokens (tokensAt 0 ls ++ [⟨.finish, [], (Utf8.decode line).length⟩]) with
    | ok tree =>
      rw [hparse] at h
      cases h
    | error e =>
      rw [hparse] at h
      cases h
      obtain ⟨hkind, htoken⟩ := ofTokensFrom_marked ⟨_, List.mem_append_right _ (List.mem_singleton_self _), rfl⟩ hparse
      rcases List.mem_append.1 htoken with htoken | htoken
      · obtain ⟨hstart, hstop, -⟩ := hcuts.mem_tokensAt htoken
        rw [← hline] at hstop
        exact .parse hkind (by omega) (by omega)
      · rw [List.mem_singleton] at htoken
        exact .parse hkind (by simp [htoken]) (by simp [htoken])
  · have hline := congrArg List.length hcuts.line_eq
    rw [scanChars_of_stray hcuts hc] at h
    cases h
    rw [List.length_append, List.length_cons] at hline
    exact .scan rfl (Int.natCast_nonneg _) (by dsimp only; omega)

/-- The mark of the end is behind all characters. -/
example : ofLine (text "a |") = .error (.parse (.commandName ⟨.finish, [], 3⟩)) := by decide

end Tree

/-! ## Lines -/

/-- No line fails a check for malformed trees. Where a line is read, running its tree does not crash, in any state of
the shell and whatever the machine answers; a failure that it returns is for a reason of the system, or that of a
builtin which a command of the line names, and with `cd` and `exit` alone nothing in it says that the tree is malformed.
Where a line is not read, the error names a character that starts no token or a token that does not belong, at a
position in the line, and never says that the line or its tokens ended too early. -/
theorem ofLine_passes_checks (m : Machine σ) (set : Settings) (s : Shell σ) (line : Bytes) :
    (∀ tree, Tree.ofLine line = .ok tree →
      (execute m set (.ofTree tree) s).1 ≠ .crashed ∧
      ∀ result f, (execute m set (.ofTree tree) s).1 = .returned result (some f) →
        (∃ p ∈ tree.pipelines, LineFails set.registry p f) ∧
        (set.registry = .default → ∀ g ∈ f.chain, g.isMalformed = false)) ∧
    ∀ e, Tree.ofLine line = .error e → e.Within (Utf8.decode line).length := by
  refine ⟨fun tree hread => ⟨execute_ofTree_ne_crashed m set tree s, fun result f hf => ?_⟩, fun e => Tree.ofLine_within⟩
  obtain ⟨p, hp, hfails⟩ := lineFails_execute m set (Tree.ofLine_ok hread).1 hf
  exact ⟨⟨p, hp, hfails⟩, fun hdefault => (hdefault ▸ hfails).not_malformed⟩

end AuditShell
