import AuditShell.Proofs.Grammar
/-!
# Where reading a token list stops

`ofTokens_spec` says what reading comes to, for every token list: the tree of the only derivation with
which the list starts, the end of the tokens, or the first token with which the list is no longer the
start of a sentence.

What has been read so far is the start of a sentence at every place of the reader (`Leads`), which one
token preserves (`Leads.step`) and from which a run follows (`outcome`). A token that is refused
does not belong, since every sentence is read to its end.
-/
namespace AuditShell.Grammar

open AuditShell.Tree (ofTokensFrom readToken Place Progress)
open Token (Kind)

/-- The token list is how a sentence starts. -/
def Viable (ts : List Token) : Prop := ∃ s, Sentence s ∧ ts <+: s

/-- The token list starts with a sentence. -/
def Accepted (ts : List Token) : Prop := ∃ s, Sentence s ∧ s <+: ts

/-! ## What has been read can go on -/

/-- Some token of each kind. -/
def Terminal.any (k : Kind) : Terminal k := ⟨⟨k, [], 0⟩, rfl⟩

/-- Tokens after which a command may start. -/
inductive Open : List Token → Prop where
  | start : Open []
  | pipe {ts : List Token} (h : Open ts) (c : CommandForm) (t : Terminal .pipe) : Open (ts ++ c.tokens ++ [t.1])
  | separator {ts : List Token} (h : Open ts) (c : CommandForm) (t : Terminal .separator) :
      Open (ts ++ c.tokens ++ [t.1])

theorem Open.sentence {ts : List Token} (h : Open ts) (d : ProgramForm) : Sentence (ts ++ d.tokens) := by
  induction h generalizing d with
  | start => exact ⟨d, rfl⟩
  -- the command goes in front of what follows: into its first pipeline, or as a pipeline of its own
  | @pipe ts _ c t ih =>
    obtain ⟨⟨first, commands⟩, pipelines, finish⟩ := d
    have := ih ⟨⟨c, (t, first) :: commands⟩, pipelines, finish⟩
    simpa [ProgramForm.tokens, PipelineForm.tokens] using this
  | @separator ts _ c t ih =>
    obtain ⟨q, pipelines, finish⟩ := d
    have := ih ⟨⟨c, []⟩, (t, q) :: pipelines, finish⟩
    simpa [ProgramForm.tokens, PipelineForm.tokens] using this

/-- Tokens after which the line may end. -/
theorem Open.closed {ts : List Token} (h : Open ts) (c : CommandForm) (f : Terminal .finish) :
    Sentence (ts ++ c.tokens ++ [f.1]) := by
  simpa [ProgramForm.tokens, PipelineForm.tokens] using h.sentence ⟨⟨c, []⟩, [], f⟩

/-- The tokens that lead to a place. -/
def Leads : Place → List Token → Prop
  | .command, ts => Open ts
  | .words, ts => ∃ us, ∃ c : CommandForm, Open us ∧ c.redirects = [] ∧ ts = us ++ c.tokens
  | .redirects, ts => ∃ us, ∃ c : CommandForm, Open us ∧ ts = us ++ c.tokens
  | .file _, ts => ∃ us, ∃ c : CommandForm, ∃ operator, Open us ∧ ts = us ++ c.tokens ++ operator ∧
      ∀ w : Terminal .word, ∃ r : RedirectForm, r.tokens = operator ++ [w.1]
  | .angle, ts => ∃ us, ∃ c : CommandForm, ∃ t : Terminal .output, Open us ∧ ts = us ++ c.tokens ++ [t.1]

/-- A command with one more word, where it has no redirects yet. -/
def CommandForm.addWord (c : CommandForm) (w : Terminal .word) : CommandForm := { c with args := c.args ++ [w] }

/-- A command with one more redirect. -/
def CommandForm.addRedirect (c : CommandForm) (r : RedirectForm) : CommandForm :=
  { c with redirects := c.redirects ++ [r] }

theorem CommandForm.addWord_tokens {c : CommandForm} (h : c.redirects = []) (w : Terminal .word) :
    (c.addWord w).tokens = c.tokens ++ [w.1] := by
  simp [CommandForm.tokens, CommandForm.addWord, h]

theorem CommandForm.addRedirect_tokens (c : CommandForm) (r : RedirectForm) :
    (c.addRedirect r).tokens = c.tokens ++ r.tokens := by
  simp [CommandForm.tokens, CommandForm.addRedirect]

theorem Leads.redirects {place : Place} (h : Ends place) {ts : List Token} (hl : Leads place ts) :
    ∃ us, ∃ c : CommandForm, Open us ∧ ts = us ++ c.tokens := by
  rcases h with rfl | rfl
  · obtain ⟨us, c, hus, -, hts⟩ := hl
    exact ⟨us, c, hus, hts⟩
  · exact hl

/-- The tokens that lead to a place are how a sentence starts. -/
theorem Leads.viable {place : Place} {ts : List Token} (h : Leads place ts) : Viable ts := by
  have hclosed : ∀ us c more, Open us → us ++ CommandForm.tokens c = ts ++ more → Viable ts := by
    intro us c more hus hts
    refine ⟨_, hus.closed c (.any .finish), more ++ [(Terminal.any .finish).1], ?_⟩
    rw [hts, List.append_assoc]
  cases place with
  | command => exact hclosed ts ⟨.any .word, [], []⟩ _ h rfl
  | words =>
    obtain ⟨us, c, hus, rfl⟩ := Leads.redirects (.inl rfl) h
    exact hclosed us c [] hus (List.append_nil _).symm
  | redirects =>
    obtain ⟨us, c, hus, rfl⟩ := h
    exact hclosed us c [] hus (List.append_nil _).symm
  | file kind =>
    obtain ⟨us, c, op, hus, rfl, hop⟩ := h
    obtain ⟨r, hr⟩ := hop (.any .word)
    refine hclosed us (c.addRedirect r) [(Terminal.any .word).1] hus ?_
    rw [CommandForm.addRedirect_tokens, hr]
    simp
  | angle =>
    obtain ⟨us, c, t, hus, rfl⟩ := h
    refine hclosed us (c.addRedirect (.output t (.any .word))) [(Terminal.any .word).1] hus ?_
    rw [CommandForm.addRedirect_tokens]
    simp [RedirectForm.tokens]

theorem Leads.atFile {kind : Redirect.Kind} {ts : List Token} (h : Leads (.file kind) ts) (w : Terminal .word) :
    Leads .redirects (ts ++ [w.1]) := by
  obtain ⟨us, c, operator, hus, rfl, hop⟩ := h
  obtain ⟨r, hr⟩ := hop w
  refine ⟨us, c.addRedirect r, hus, ?_⟩
  rw [CommandForm.addRedirect_tokens, hr, List.append_assoc, List.append_assoc]

theorem Open.atRedirect {us : List Token} (h : Open us) (c : CommandForm) {place : Place} {p p' : Progress} {t : Token}
    (hread : Tree.atRedirect p t = .go place p') : Leads place (us ++ c.tokens ++ [t]) := by
  obtain ⟨k, w, pos⟩ := t
  cases k <;> simp only [Tree.atRedirect, Tree.afterCommand] at hread <;> cases hread
  · exact h.pipe c ⟨⟨.pipe, w, pos⟩, rfl⟩
  · exact ⟨us, c, [⟨.input, w, pos⟩], h, rfl, fun file => ⟨.input ⟨⟨.input, w, pos⟩, rfl⟩ file, rfl⟩⟩
  · exact ⟨us, c, ⟨⟨.output, w, pos⟩, rfl⟩, h, rfl⟩
  · exact ⟨us, c, [⟨.append, w, pos⟩], h, rfl, fun file => ⟨.append ⟨⟨.append, w, pos⟩, rfl⟩ file, rfl⟩⟩
  · exact h.separator c ⟨⟨.separator, w, pos⟩, rfl⟩

theorem readToken_words {t : Token} (h : t.kind ≠ .word) (p : Progress) :
    readToken .words p t = Tree.atRedirect p t := by
  obtain ⟨k, w, pos⟩ := t
  cases k <;> first | exact absurd rfl h | rfl

/-- A token that is read where it belongs leads to the next place. -/
theorem Leads.step {place place' : Place} {p p' : Progress} {ts : List Token} {t : Token} (h : Leads place ts)
    (hread : readToken place p t = .go place' p') : Leads place' (ts ++ [t]) := by
  cases place with
  | command =>
    obtain ⟨k, w, pos⟩ := t
    cases k <;> simp only [readToken] at hread <;> cases hread
    exact ⟨ts, ⟨⟨⟨.word, w, pos⟩, rfl⟩, [], []⟩, h, rfl, rfl⟩
  | words =>
    obtain ⟨us, c, hus, hc, rfl⟩ := h
    by_cases hw : t.kind = .word
    · simp only [readToken, hw] at hread
      cases hread
      refine ⟨us, c.addWord ⟨t, hw⟩, hus, hc, ?_⟩
      rw [CommandForm.addWord_tokens hc, List.append_assoc]
    · exact hus.atRedirect c (readToken_words hw p ▸ hread)
  | redirects =>
    obtain ⟨us, c, hus, rfl⟩ := h
    exact hus.atRedirect c hread
  | file kind =>
    obtain ⟨k, w, pos⟩ := t
    cases k <;> simp only [readToken, Tree.atFile] at hread <;> cases hread
    exact h.atFile ⟨⟨.word, w, pos⟩, rfl⟩
  | angle =>
    obtain ⟨us, c, first, hus, rfl⟩ := h
    have houtput : Leads (.file .output) (us ++ c.tokens ++ [first.1]) :=
      ⟨us, c, [first.1], hus, rfl, fun file => ⟨.output first file, rfl⟩⟩
    obtain ⟨k, w, pos⟩ := t
    cases k <;> simp only [readToken, Tree.atFile] at hread <;> cases hread
    · exact houtput.atFile ⟨⟨.word, w, pos⟩, rfl⟩
    · refine ⟨us, c, [first.1, ⟨.output, w, pos⟩], hus, by simp, fun file => ?_⟩
      exact ⟨.split first ⟨⟨.output, w, pos⟩, rfl⟩ file, rfl⟩

/-! ## Where reading stops -/

/-- What the reader says of a token that does not belong: it is left over where the line may end, and
unexpected elsewhere. -/
inductive Refuses (place : Place) (t : Token) (e : ParseError) : Prop where
  | leftOver (h : Ends place) (hk : e.kind = .tokensLeft) (ht : e.token = t)
  | unexpected (h : ∀ (f : Terminal .finish) (p : Progress) (ts : List Token),
      ∃ e, ofTokensFrom place p (f.1 :: ts) = .error e) (hk : e.kind = .unexpectedToken) (ht : e.token = t)

theorem atRedirect_stop {place : Place} (h : Ends place) {p : Progress} {t : Token} {r : Except ParseError Tree}
    (hread : Tree.atRedirect p t = .stop r) :
    (t.kind = .finish ∧ ∃ tree, r = .ok tree) ∨ ∃ e, r = .error e ∧ Refuses place t e := by
  obtain ⟨k, w, pos⟩ := t
  cases k <;> simp only [Tree.atRedirect, Tree.afterCommand] at hread <;> cases hread
  · exact .inr ⟨_, rfl, .leftOver h rfl rfl⟩
  · exact .inl ⟨rfl, _, rfl⟩
  · exact .inr ⟨_, rfl, .leftOver h rfl rfl⟩

/-- The end of a command is refused at a place where no command may end. -/
theorem end_error {place : Place} (h : ¬ Ends place) {t : Token}
    (ht : t.kind = .pipe ∨ t.kind = .separator ∨ t.kind = .finish) (p : Progress) (ts : List Token) :
    ∃ e, ofTokensFrom place p (t :: ts) = .error e := by
  cases place with
  | words => exact absurd (.inl rfl) h
  | redirects => exact absurd (.inr rfl) h
  | command =>
    refine ⟨.commandName t, ?_⟩
    rcases ht with ht | ht | ht <;> simp only [ofTokensFrom, readToken, ht]
  | file kind =>
    refine ⟨.fileName kind t, ?_⟩
    rcases ht with ht | ht | ht <;> simp only [ofTokensFrom, readToken, Tree.atFile, ht]
  | angle =>
    refine ⟨.fileName .output t, ?_⟩
    rcases ht with ht | ht | ht <;> simp only [ofTokensFrom, readToken, Tree.atFile, ht]

/-- The end mark is refused at a place where the line may not end. -/
theorem finish_error {place : Place} (h : ¬ Ends place) (f : Terminal .finish) (p : Progress) (ts : List Token) :
    ∃ e, ofTokensFrom place p (f.1 :: ts) = .error e :=
  end_error h (.inr (.inr f.2)) p ts

/-- Reading stops at the end mark of a sentence, or at a token that is refused. -/
theorem readToken_stop {place : Place} {p : Progress} {t : Token} {r : Except ParseError Tree}
    (hread : readToken place p t = .stop r) :
    (Ends place ∧ t.kind = .finish ∧ ∃ tree, r = .ok tree) ∨ ∃ e, r = .error e ∧ Refuses place t e := by
  have hends : ∀ {place}, Ends place → Tree.atRedirect p t = .stop r →
      (Ends place ∧ t.kind = .finish ∧ ∃ tree, r = .ok tree) ∨ ∃ e, r = .error e ∧ Refuses place t e :=
    fun h hread => (atRedirect_stop h hread).imp_left fun hok => ⟨h, hok⟩
  cases place with
  | words =>
    by_cases hw : t.kind = .word
    · simp only [readToken, hw] at hread
      cases hread
    · exact hends (.inl rfl) (readToken_words hw p ▸ hread)
  | redirects => exact hends (.inr rfl) hread
  | command =>
    obtain ⟨k, w, pos⟩ := t
    cases k <;> simp only [readToken] at hread <;> cases hread <;>
      exact .inr ⟨_, rfl, .unexpected (finish_error (by simp [Ends])) rfl rfl⟩
  | file kind =>
    obtain ⟨k, w, pos⟩ := t
    cases k <;> simp only [readToken, Tree.atFile] at hread <;> cases hread <;>
      exact .inr ⟨_, rfl, .unexpected (finish_error (by simp [Ends])) rfl rfl⟩
  | angle =>
    obtain ⟨k, w, pos⟩ := t
    cases k <;> simp only [readToken, Tree.atFile] at hread <;> cases hread <;>
      exact .inr ⟨_, rfl, .unexpected (finish_error (by simp [Ends])) rfl rfl⟩

/-! ## Runs of the reader -/

/-- What reading a list of tokens comes to, after tokens that lead to a place: the end mark of a
sentence, the end of the tokens, or a token that is refused. -/
inductive Outcome (place : Place) (p : Progress) (before ts : List Token) : Prop where
  | accepts (us vs : List Token) (tree : Tree) (hts : ts = us ++ vs) (hs : Sentence (before ++ us))
      (hr : ofTokensFrom place p ts = .ok tree)
  | runsOut (hv : Viable (before ++ ts)) (hr : ofTokensFrom place p ts = .error .endOfTokens)
  | refuses (us vs : List Token) (t : Token) (e : ParseError) (place' : Place) (p' : Progress)
      (hts : ts = us ++ t :: vs) (hl : Leads place' (before ++ us)) (he : Refuses place' t e)
      (hr : ∀ vs, ofTokensFrom place p (us ++ t :: vs) = .error e)
      (hp : ∀ vs, ofTokensFrom place p (us ++ vs) = ofTokensFrom place' p' vs)

theorem outcome {place : Place} {before : List Token} (h : Leads place before) (p : Progress) (ts : List Token) :
    Outcome place p before ts := by
  -- what the place knows of the tokens before it is all that the rest of the run needs
  induction ts generalizing place p before with
  | nil => exact .runsOut (by rw [List.append_nil]; exact h.viable) rfl
  | cons t ts ih =>
    cases hread : readToken place p t with
    | go place' p' =>
      have hstep : ∀ vs, ofTokensFrom place p (t :: vs) = ofTokensFrom place' p' vs := by
        intro vs
        rw [ofTokensFrom, hread]
      have happend : ∀ us, before ++ [t] ++ us = before ++ t :: us := fun us => by simp
      cases ih (h.step hread) p' with
      | accepts us vs tree hts hs hr =>
        refine .accepts (t :: us) vs tree (by rw [hts]; rfl) (happend us ▸ hs) ((hstep ts).trans hr)
      | runsOut hv hr => exact .runsOut (happend ts ▸ hv) ((hstep ts).trans hr)
      | refuses us vs u e place'' p'' hts hl he hr hp =>
        exact .refuses (t :: us) vs u e place'' p'' (by rw [hts]; rfl) (happend us ▸ hl) he
          (fun vs => (hstep _).trans (hr vs)) (fun vs => (hstep _).trans (hp vs))
    | stop r =>
      have hstop : ∀ vs, ofTokensFrom place p (t :: vs) = r := by
        intro vs
        rw [ofTokensFrom, hread]
      rcases readToken_stop hread with ⟨hends, hk, tree, rfl⟩ | ⟨e, rfl, he⟩
      · obtain ⟨us, c, hus, rfl⟩ := h.redirects hends
        exact .accepts [t] ts tree rfl (hus.closed c ⟨t, hk⟩) (hstop ts)
      · exact .refuses [] ts t e place p rfl (by rwa [List.append_nil]) he hstop fun _ => rfl

theorem ofTokens_of_sentence {d : ProgramForm} {ts : List Token} (h : d.tokens <+: ts) :
    Tree.ofTokens ts = .ok d.tree := by
  obtain ⟨extra, rfl⟩ := h
  exact ofTokens_append d extra

/-- A tree that is read is that of a derivation with which the tokens start. -/
theorem exists_derivation {ts : List Token} {t : Tree} (h : Tree.ofTokens ts = .ok t) :
    ∃ d : ProgramForm, d.tokens <+: ts ∧ d.tree = t := by
  cases outcome (show Leads .command [] from .start) {} ts with
  | accepts us vs tree hts hs hr =>
    obtain ⟨d, hd⟩ := hs
    have hstart : d.tokens <+: ts := ⟨vs, by rw [hd, hts]; rfl⟩
    have hok := ofTokens_of_sentence hstart
    rw [h] at hok
    cases hok
    exact ⟨d, hstart, rfl⟩
  | runsOut hv hr =>
    rw [Tree.ofTokens, hr] at h
    cases h
  | refuses us vs t e place p hts hl he hr hp =>
    rw [Tree.ofTokens, hts, hr vs] at h
    cases h

theorem not_accepted {ts : List Token} {e : ParseError} (h : Tree.ofTokens ts = .error e) : ¬ Accepted ts := by
  rintro ⟨_, ⟨d, rfl⟩, hd⟩
  rw [ofTokens_of_sentence hd] at h
  cases h

theorem Viable.mono {ts us : List Token} (h : Viable ts) (hu : us <+: ts) : Viable us := by
  obtain ⟨s, hs, hts⟩ := h
  exact ⟨s, hs, hu.trans hts⟩

/-- Reading a token list decides the grammar. In exactly one of three cases the list starts with a
sentence, and the tree is that of its only derivation; or it starts with none but is the start of one,
and the tokens end too early; or the reader names the first token with which it is no longer the start
of a sentence, as left over where the line may end before it and as unexpected elsewhere. -/
theorem ofTokens_spec (ts : List Token) :
    (∃ d : ProgramForm, d.tokens <+: ts ∧ (∀ d' : ProgramForm, d'.tokens <+: ts → d' = d) ∧
      Tree.ofTokens ts = .ok d.tree) ∨
    (¬ Accepted ts ∧ (∃ s, Sentence s ∧ ts <+: s ∧ ts ≠ s) ∧ Tree.ofTokens ts = .error .endOfTokens) ∨
    (¬ Accepted ts ∧ ¬ Viable ts ∧ ∃ i t e, ts[i]? = some t ∧ ¬ Viable (ts.take (i + 1)) ∧
      (∀ j < i, Viable (ts.take (j + 1))) ∧ Tree.ofTokens ts = .error e ∧ e.token = t ∧
      ((e.kind = .tokensLeft ∧ ∃ f : Terminal .finish, Sentence (ts.take i ++ [f.1])) ∨
        (e.kind = .unexpectedToken ∧ ¬ ∃ f : Terminal .finish, Sentence (ts.take i ++ [f.1])))) := by
  cases outcome (show Leads .command [] from .start) {} ts with
  | accepts us vs tree hts hs hr =>
    obtain ⟨d, hd⟩ := hs
    have hstart : d.tokens <+: ts := ⟨vs, by rw [hd, hts]; rfl⟩
    refine .inl ⟨d, hstart, fun d' hd' => ?_, ofTokens_of_sentence hstart⟩
    obtain ⟨as, ha⟩ := hstart
    obtain ⟨bs, hb⟩ := hd'
    exact cancel_program d' d bs as (hb.trans ha.symm)
  | runsOut hv hr =>
    have hnot := not_accepted hr
    obtain ⟨s, hs, hts⟩ := hv
    refine .inr (.inl ⟨hnot, ⟨s, hs, hts, ?_⟩, hr⟩)
    rintro rfl
    exact hnot ⟨ts, hs, List.prefix_rfl⟩
  | refuses us vs t e place p hts hl he hr hp =>
    subst hts
    rw [List.nil_append] at hl
    have htake : (us ++ t :: vs).take us.length = us := List.take_left
    have htake' : (us ++ t :: vs).take (us.length + 1) = us ++ [t] := by
      rw [List.take_length_add_append]
      rfl
    -- a sentence that went on with the token would be read to its end, but reading stops at the token
    have hnot : ¬ Viable (us ++ [t]) := by
      rintro ⟨_, ⟨d, rfl⟩, ws, hws⟩
      have herror := hr ws
      rw [← List.singleton_append, ← List.append_assoc, hws] at herror
      exact not_accepted herror ⟨_, ⟨d, rfl⟩, List.prefix_rfl⟩
    refine .inr (.inr ⟨not_accepted (hr vs), fun hv => hnot (hv.mono ⟨vs, by simp⟩), us.length, t, e, by simp,
      htake' ▸ hnot, fun j hj => ?_, hr vs, ?_, ?_⟩)
    · refine hl.viable.mono ?_
      rw [List.take_append_of_le_length hj]
      exact List.take_prefix _ _
    · cases he <;> assumption
    · rw [htake]
      cases he with
      | leftOver hends hk _ =>
        obtain ⟨vs, c, hvs, rfl⟩ := hl.redirects hends
        exact .inl ⟨hk, .any .finish, hvs.closed c _⟩
      | unexpected hfinish hk _ =>
        refine .inr ⟨hk, ?_⟩
        rintro ⟨f, d, hd⟩
        obtain ⟨e', he'⟩ := hfinish f p []
        have herror := (hp [f.1]).trans he'
        rw [← hd] at herror
        exact not_accepted herror ⟨_, ⟨d, rfl⟩, List.prefix_rfl⟩

end AuditShell.Grammar
