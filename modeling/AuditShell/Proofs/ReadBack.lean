import AuditShell.Proofs.Print
import AuditShell.Proofs.Viable
/-!
# Which lines read back from their written form

`Tree.render_reads_back`: the tree of a line is read again from its written form exactly where each of
its words and file names survives. Other white space than blank, tab and line ends does not lead to
quotes, and splits the word (`Tree.render_splits_word`). A tree that no line wrote can also have a word with
both quotes, which no written form keeps (`Tree.render_reads_back_iff`).

A tree that a line can run has a derivation whose tokens are those of the tree
(`exists_programForm`), and a reader does not look at positions (`ofTokens_congr`). In the other
direction all words of a tree that is read are among the tokens (`amongWords_tree`), and all words among the
tokens of a written tree survive.
-/
namespace AuditShell.Tree

open Grammar

/-! ## The derivation of a tree -/

/-- The token of a word. -/
def wordToken (w : Bytes) : Terminal .word := ⟨⟨.word, w, 0⟩, rfl⟩

theorem exists_redirectForm {r : Redirect} (h : r.kind.isKnown = true) :
    ∃ f : RedirectForm, f.value = r ∧ f.tokens.map shape = redirectShapes r := by
  obtain ⟨kind, path⟩ := r
  cases kind with
  | input => exact ⟨.input (.any .input) (wordToken path), rfl, rfl⟩
  | output => exact ⟨.output (.any .output) (wordToken path), rfl, rfl⟩
  | append => exact ⟨.append (.any .append) (wordToken path), rfl, rfl⟩
  | other n => cases h

/-- Derivations of the elements of a list. -/
theorem exists_forms {α β : Type} {value : β → α} {tokens : β → List Token}
    {shapesOf : α → List (Token.Kind × Bytes)} (xs : List α)
    (h : ∀ x ∈ xs, ∃ f, value f = x ∧ (tokens f).map shape = shapesOf x) :
    ∃ fs : List β, fs.map value = xs ∧ (fs.flatMap tokens).map shape = xs.flatMap shapesOf := by
  induction xs with
  | nil => exact ⟨[], rfl, rfl⟩
  | cons x xs ih =>
    obtain ⟨f, hvalue, hshape⟩ := h x List.mem_cons_self
    obtain ⟨fs, hvalues, hshapes⟩ := ih fun z hz => h z (List.mem_cons_of_mem _ hz)
    refine ⟨f :: fs, by rw [List.map_cons, hvalue, hvalues], ?_⟩
    rw [List.flatMap_cons, List.map_append, hshape, hshapes, List.flatMap_cons]

theorem exists_commandForm {c : Command} (h : c.WellFormed) :
    ∃ f : CommandForm, f.value = c ∧ f.tokens.map shape = commandShapes c := by
  obtain ⟨words, redirects⟩ := c
  obtain ⟨hwords, hredirects⟩ := h
  obtain ⟨w, ws, rfl⟩ := List.exists_cons_of_ne_nil hwords
  obtain ⟨fs, hvalue, hshape⟩ := exists_forms redirects fun r hr => exists_redirectForm (hredirects r hr)
  refine ⟨⟨wordToken w, ws.map wordToken, fs⟩, ?_, ?_⟩
  · simp [CommandForm.value, hvalue, wordToken, Function.comp_def]
  · simp [CommandForm.tokens, commandShapes, hshape, wordToken, shape, Function.comp_def]

theorem exists_pipelineForm {p : Pipeline} (hp : p ≠ []) (h : ∀ c ∈ p, c.WellFormed) :
    ∃ f : PipelineForm, f.value = p ∧ f.tokens.map shape = pipelineShapes p := by
  obtain ⟨c, cs, rfl⟩ := List.exists_cons_of_ne_nil hp
  obtain ⟨f, hvalue, hshape⟩ := exists_commandForm (h c List.mem_cons_self)
  obtain ⟨fs, hvalues, hshapes⟩ : ∃ fs : List (Terminal .pipe × CommandForm), fs.map (·.2.value) = cs ∧
      (fs.flatMap fun x => x.1.1 :: x.2.tokens).map shape = cs.flatMap fun c => (.pipe, []) :: commandShapes c := by
    refine exists_forms cs fun c hc => ?_
    obtain ⟨f, hvalue, hshape⟩ := exists_commandForm (h c (List.mem_cons_of_mem _ hc))
    exact ⟨(.any .pipe, f), hvalue, by rw [List.map_cons, hshape]; rfl⟩
  refine ⟨⟨f, fs⟩, by rw [PipelineForm.value, hvalue, hvalues], ?_⟩
  rw [PipelineForm.tokens, List.map_append, hshape, hshapes, pipelineShapes, List.map_cons, intercalate_cons_eq,
    List.flatMap_map]
  rfl

/-- A tree that a line can run has a derivation, of which the tokens are those of the tree. -/
theorem exists_programForm {t : Tree} (h : t.WellFormed) :
    ∃ d : ProgramForm, d.tree = t ∧ d.tokens.map shape = treeShapes t ++ [(.finish, [])] := by
  obtain ⟨hpipelines, hne, hof⟩ := h
  unfold treeShapes
  generalize t.pipelines = all at hpipelines hne hof ⊢
  obtain ⟨p, ps, rfl⟩ := List.exists_cons_of_ne_nil hne
  have hform : ∀ q ∈ p :: ps, ∃ f : PipelineForm, f.value = q ∧ f.tokens.map shape = pipelineShapes q :=
    fun q hq => exists_pipelineForm (hpipelines q hq).1 (hpipelines q hq).2
  obtain ⟨f, hvalue, hshape⟩ := hform p List.mem_cons_self
  obtain ⟨fs, hvalues, hshapes⟩ : ∃ fs : List (Terminal .separator × PipelineForm), fs.map (·.2.value) = ps ∧
      (fs.flatMap fun x => x.1.1 :: x.2.tokens).map shape = ps.flatMap fun q => (.separator, []) :: pipelineShapes q := by
    refine exists_forms ps fun q hq => ?_
    obtain ⟨f, hvalue, hshape⟩ := hform q (List.mem_cons_of_mem _ hq)
    exact ⟨(.any .separator, f), hvalue, by rw [List.map_cons, hshape]; rfl⟩
  refine ⟨⟨f, fs, .any .finish⟩, ?_, ?_⟩
  · rw [tree_eq, hvalue, hvalues, hof]
  · rw [ProgramForm.tokens, List.map_append, List.map_append, hshape, hshapes, List.map_cons (f := pipelineShapes),
      intercalate_cons_eq, List.flatMap_map]
    rfl

/-! ## The tree of a derivation -/

theorem pipelines_ofPipelines (ps : List Pipeline) : (ofPipelines ps).pipelines = ps := by
  unfold ofPipelines
  split <;> rfl

theorem wellFormed_command (c : CommandForm) : c.value.WellFormed := by
  refine ⟨by simp [CommandForm.value], fun r hr => ?_⟩
  obtain ⟨f, -, rfl⟩ := List.mem_map.mp hr
  cases f <;> rfl

theorem wellFormed_pipeline (q : PipelineForm) : q.value ≠ [] ∧ ∀ c ∈ q.value, c.WellFormed := by
  refine ⟨by simp [PipelineForm.value], fun c hc => ?_⟩
  rcases List.mem_cons.mp hc with rfl | hc
  · exact wellFormed_command q.first
  · obtain ⟨x, -, rfl⟩ := List.mem_map.mp hc
    exact wellFormed_command x.2

theorem wellFormed_tree (d : ProgramForm) : d.tree.WellFormed := by
  rw [tree_eq, WellFormed, pipelines_ofPipelines]
  refine ⟨fun p hp => ?_, List.cons_ne_nil _ _, rfl⟩
  rcases List.mem_cons.mp hp with rfl | hp
  · exact wellFormed_pipeline d.first
  · obtain ⟨x, -, rfl⟩ := List.mem_map.mp hp
    exact wellFormed_pipeline x.2

/-- A word among tokens. -/
def AmongWords (w : Bytes) (ts : List Token) : Prop := ∃ t ∈ ts, t.kind = .word ∧ t.word = w

theorem AmongWords.mono {w : Bytes} {ts us : List Token} (h : AmongWords w ts) (hsub : ts ⊆ us) : AmongWords w us := by
  obtain ⟨t, ht, hk⟩ := h
  exact ⟨t, hsub ht, hk⟩

theorem amongWords_redirect (f : RedirectForm) : AmongWords f.value.path f.tokens := by
  cases f with
  | input _ file => exact ⟨file.1, by simp [RedirectForm.tokens], file.2, rfl⟩
  | output _ file => exact ⟨file.1, by simp [RedirectForm.tokens], file.2, rfl⟩
  | append _ file => exact ⟨file.1, by simp [RedirectForm.tokens], file.2, rfl⟩
  | split _ _ file => exact ⟨file.1, by simp [RedirectForm.tokens], file.2, rfl⟩

theorem amongWords_command {c : CommandForm} {w : Bytes} (h : w ∈ c.value.texts) : AmongWords w c.tokens := by
  rcases List.mem_append.mp h with h | h
  · rcases List.mem_cons.mp h with rfl | h
    · exact ⟨c.name.1, List.mem_cons_self, c.name.2, rfl⟩
    · obtain ⟨x, hx, rfl⟩ := List.mem_map.mp h
      refine ⟨x.1, List.mem_cons_of_mem _ (List.mem_append_left _ ?_), x.2, rfl⟩
      exact List.mem_map_of_mem hx
  · obtain ⟨r, hr, rfl⟩ := List.mem_map.mp h
    obtain ⟨f, hf, rfl⟩ := List.mem_map.mp hr
    refine (amongWords_redirect f).mono fun t ht => ?_
    exact List.mem_cons_of_mem _ (List.mem_append_right _ (List.mem_flatMap.mpr ⟨f, hf, ht⟩))

theorem amongWords_pipeline {q : PipelineForm} {w : Bytes} (h : ∃ c ∈ q.value, w ∈ c.texts) : AmongWords w q.tokens := by
  obtain ⟨c, hc, hw⟩ := h
  rcases List.mem_cons.mp hc with rfl | hc
  · exact (amongWords_command hw).mono (List.subset_append_left _ _)
  · obtain ⟨x, hx, rfl⟩ := List.mem_map.mp hc
    refine (amongWords_command hw).mono fun t ht => List.mem_append_right _ ?_
    exact List.mem_flatMap.mpr ⟨x, hx, List.mem_cons_of_mem _ ht⟩

/-- The words and file names of a tree are among the tokens of its derivation. -/
theorem amongWords_tree {d : ProgramForm} {w : Bytes} (h : w ∈ d.tree.texts) : AmongWords w d.tokens := by
  rw [tree_eq, texts, pipelines_ofPipelines] at h
  obtain ⟨p, hp, hw⟩ := List.mem_flatMap.mp h
  have hc := List.mem_flatMap.mp hw
  rcases List.mem_cons.mp hp with rfl | hp
  · exact (amongWords_pipeline hc).mono fun t ht => List.mem_append_left _ (List.mem_append_left _ ht)
  · obtain ⟨x, hx, rfl⟩ := List.mem_map.mp hp
    refine (amongWords_pipeline hc).mono fun t ht => List.mem_append_left _ (List.mem_append_right _ ?_)
    exact List.mem_flatMap.mpr ⟨x, hx, List.mem_cons_of_mem _ ht⟩

/-! ## Reading back -/

theorem readToken_congr {t u : Token} (h : shape t = shape u) (place : Place) (p : Progress) :
    (∃ place' p', readToken place p t = .go place' p' ∧ readToken place p u = .go place' p') ∨
      (∃ tree, readToken place p t = .stop (.ok tree) ∧ readToken place p u = .stop (.ok tree)) ∨
      ∃ e, readToken place p t = .stop (.error e) := by
  obtain ⟨k, w, pos⟩ := t
  obtain ⟨k', w', pos'⟩ := u
  obtain ⟨rfl, rfl⟩ := Prod.mk.inj h
  cases place <;> cases k <;> simp [readToken, atRedirect, atFile, afterCommand]

/-- The tree of a token list does not depend on the positions. -/
theorem ofTokens_congr {ts us : List Token} {t : Tree} (h : ts.map shape = us.map shape) (ht : ofTokens ts = .ok t) :
    ofTokens us = .ok t := by
  have main : ∀ (place : Place) (p : Progress), ofTokensFrom place p ts = .ok t → ofTokensFrom place p us = .ok t := by
    clear ht
    induction ts generalizing us with
    | nil =>
      intro place p hok
      cases hok
    | cons a ts ih =>
      intro place p hok
      cases us with
      | nil => cases h
      | cons b us =>
        obtain ⟨hshape, hrest⟩ := List.cons.inj h
        rw [ofTokensFrom] at hok ⊢
        rcases readToken_congr hshape place p with ⟨place', p', ha, hb⟩ | ⟨tree, ha, hb⟩ | ⟨e, ha⟩
        · rw [ha] at hok
          rw [hb]
          exact ih hrest place' p' hok
        · rw [ha] at hok
          rw [hb]
          exact hok
        · rw [ha] at hok
          cases hok
  exact main .command {} ht

theorem mem_tokensAt {ls : List Lexeme} {pos : Nat} {t : Token} (h : t ∈ tokensAt pos ls) :
    ∃ l ∈ ls, ∃ pos, l.token? pos = some t := by
  induction ls generalizing pos with
  | nil => cases h
  | cons l ls ih =>
    rcases List.mem_append.mp h with h | h
    · exact ⟨l, List.mem_cons_self, pos, Option.mem_toList.mp h⟩
    · obtain ⟨m, hm, hp⟩ := ih h
      exact ⟨m, List.mem_cons_of_mem _ hm, hp⟩

theorem writable_token {l : Lexeme} {rest : List Char} (h : l.Before rest) {pos : Nat} {t : Token}
    (ht : l.token? pos = some t) (hk : t.kind = .word) : Writable t.word := by
  cases h with
  | blank _ => cases ht
  | @word cs _ _ hcs _ =>
    cases ht
    exact ⟨cs, rfl, .inl fun hm => (hcs _ hm).2.1 (by decide)⟩
  | @closed q cs _ hq hcs =>
    cases ht
    rcases hq with rfl | rfl
    · exact ⟨cs, rfl, .inr hcs⟩
    · exact ⟨cs, rfl, .inl hcs⟩
  | @unclosed q cs hq hcs =>
    cases ht
    rcases hq with rfl | rfl
    · exact ⟨cs, rfl, .inr hcs⟩
    · exact ⟨cs, rfl, .inl hcs⟩
  | _ =>
    cases ht
    cases hk

/-- No word of a line holds both quotes. -/
theorem writable_of_scan {line : Bytes} {ts : List Token} (h : Token.scan line = .ok ts) {t : Token} (ht : t ∈ ts)
    (hk : t.kind = .word) : Writable t.word := by
  unfold Token.scan at h
  obtain ⟨ls, tail, hcuts, rfl | ⟨c, rest, rfl, hc⟩⟩ := exists_cuts (Utf8.decode line)
  · rw [scanChars_of_cuts hcuts] at h
    cases h
    rcases List.mem_append.mp ht with ht | ht
    · obtain ⟨l, hl, pos, htoken⟩ := mem_tokensAt ht
      obtain ⟨⟨rest, hbefore⟩, -⟩ := mem_cuts hcuts hl
      exact writable_token hbefore htoken hk
    · rw [List.mem_singleton.mp ht] at hk
      cases hk
  · rw [scanChars_of_stray hcuts hc] at h
    cases h

/-- A tree that a line can run reads back from its written form exactly where each of its words and file
names does. -/
theorem ofLine_render_iff {t : Tree} (ht : t.WellFormed) (h : ∀ w ∈ t.texts, Writable w) :
    ofLine t.render = .ok t ↔ ∀ w ∈ t.texts, Survives w := by
  obtain ⟨pos, hscan⟩ := scan_render ht h
  have hline : ofLine t.render = .ok t ↔ ofTokens (tokensAt 0 (treeLexemes t) ++ [.ofOperator .finish pos]) = .ok t := by
    rw [ofLine, hscan]
    dsimp only
    cases ofTokens (tokensAt 0 (treeLexemes t) ++ [.ofOperator .finish pos]) <;> simp
  rw [hline]
  constructor
  -- a word of the tree that is read is a token of the written form, and those survive
  · intro hok w hw
    obtain ⟨d, hstart, rfl⟩ := exists_derivation hok
    obtain ⟨u, hu, hk, rfl⟩ := amongWords_tree hw
    rcases List.mem_append.mp (hstart.subset hu) with hu | hu
    · have hshape : shape u ∈ shapes (treeLexemes d.tree) := by
        rw [← shapes_tokensAt 0]
        exact List.mem_map_of_mem hu
      exact shapes_tree_survive d.tree hshape hk
    · rw [List.mem_singleton.mp hu] at hk
      cases hk
  -- the written form has the tokens of a derivation of the tree, at other positions
  · intro hs
    obtain ⟨d, hd, hshape⟩ := exists_programForm ht
    have hok := ofTokens_append d []
    rw [List.append_nil, hd] at hok
    refine ofTokens_congr ?_ hok
    rw [hshape, List.map_append, shapes_tokensAt, shapes_tree fun w hw => ⟨h w hw, hs w hw⟩]
    rfl

theorem ofLine_ok {line : Bytes} {t : Tree} (h : ofLine line = .ok t) :
    t.WellFormed ∧ ∀ w ∈ t.texts, Writable w := by
  unfold ofLine at h
  cases hscan : Token.scan line with
  | error e =>
    rw [hscan] at h
    cases h
  | ok ts =>
    rw [hscan] at h
    dsimp only at h
    cases hparse : ofTokens ts with
    | error e =>
      rw [hparse] at h
      cases h
    | ok t' =>
      rw [hparse] at h
      cases h
      obtain ⟨d, hstart, rfl⟩ := exists_derivation hparse
      refine ⟨wellFormed_tree d, fun w hw => ?_⟩
      obtain ⟨u, hu, hk, rfl⟩ := amongWords_tree hw
      exact writable_of_scan hscan (hstart.subset hu) hk

/-- The tree of a line reads back from its written form exactly where no word or file name holds white space
for which it is not written in quotes. -/
theorem render_reads_back {line : Bytes} {t : Tree} (h : ofLine line = .ok t) :
    ofLine t.render = .ok t ↔ ∀ w ∈ t.texts, Survives w := by
  obtain ⟨ht, hwrite⟩ := ofLine_ok h
  exact ofLine_render_iff ht hwrite

/-- A word with a blank and a single quote comes back. -/
theorem render_reads_back_quoted :
    ∃ t, ofLine (text "echo \"it's here\" >> out; wc") = .ok t ∧ ofLine t.render = .ok t := by
  have h : ofLine (text "echo \"it's here\" >> out; wc") =
      .ok (.sequence [[⟨[text "echo", text "it's here"], [⟨.append, text "out"⟩]⟩], [⟨[text "wc"], []⟩]]) := by decide
  exact ⟨_, h, (render_reads_back h).mpr (by decide)⟩

/-- A word with a no-break space is written without quotes, and comes back as two. -/
theorem render_splits_word :
    ofLine (text "echo 'a\u00a0b'") = .ok (.pipeline [⟨[text "echo", text "a\u00a0b"], []⟩]) ∧
      ofLine (render (.pipeline [⟨[text "echo", text "a\u00a0b"], []⟩])) =
        .ok (.pipeline [⟨[text "echo", text "a", text "b"], []⟩]) := by
  decide +kernel

/-! ## Trees that no line wrote -/

/-- A word that no quotes can hold: both quotes are in it. -/
def HoldsQuotes (w : Bytes) : Prop := '\'' ∈ Utf8.decode w ∧ '"' ∈ Utf8.decode w

/-- A blank for which a word is written in quotes. -/
def isPlainBlank (c : Char) : Bool := c == ' ' || c == '\t' || c == '\r' || c == '\n'

/-- A word with a blank that only quotes would keep, and without a character for which they are written. -/
def HidesBlank (w : Bytes) : Prop :=
  (∃ c ∈ Utf8.decode w, isBlank c = true ∧ isPlainBlank c = false) ∧
    ∀ c ∈ Utf8.decode w, isPlainBlank c = false ∧ isReserved c = false

instance : DecidablePred HoldsQuotes := fun _ => inferInstanceAs (Decidable (_ ∧ _))

theorem hidesBlank_iff {w : Bytes} :
    HidesBlank w ↔ ((Utf8.decode w).any (fun c => isBlank c && !isPlainBlank c) &&
      (Utf8.decode w).all fun c => !isPlainBlank c && !isReserved c) = true := by
  simp [HidesBlank]

instance : DecidablePred HidesBlank := fun _ => decidable_of_iff _ hidesBlank_iff.symm

theorem needsQuotes_eq (c : Char) : needsQuotes c = (isReserved c || isPlainBlank c) := by
  simp only [needsQuotes, isPlainBlank, Bool.or_assoc]

theorem not_hidesBlank_iff {w : Bytes} : ¬ HidesBlank w ↔ Survives w := by
  unfold HidesBlank Survives
  constructor
  · intro h
    by_cases hquotes : ∃ c ∈ Utf8.decode w, needsQuotes c = true
    · exact .inl hquotes
    · have hplain : ∀ c ∈ Utf8.decode w, isPlainBlank c = false ∧ isReserved c = false := by
        intro c hc
        have hno : needsQuotes c = false := eq_false_of_ne_true fun hyes => hquotes ⟨c, hc, hyes⟩
        rw [needsQuotes_eq, Bool.or_eq_false_iff] at hno
        exact hno.symm
      exact .inr fun c hc => eq_false_of_ne_true fun hblank => h ⟨⟨c, hc, hblank, (hplain c hc).1⟩, hplain⟩
  · rintro (⟨c, hc, hyes⟩ | hnone) ⟨⟨b, hb, hblank, -⟩, hplain⟩
    · obtain ⟨hplain, hreserved⟩ := hplain c hc
      rw [needsQuotes_eq, hplain, hreserved] at hyes
      cases hyes
    · rw [hnone b hb] at hblank
      cases hblank

theorem writable_iff {w : Bytes} (h : Utf8.isValid w = true) : Writable w ↔ ¬ HoldsQuotes w := by
  unfold HoldsQuotes Writable
  constructor
  · rintro ⟨cs, rfl, hcs⟩ ⟨hsingle, hdouble⟩
    rw [Utf8.decode_encode] at hsingle hdouble
    exact hcs.elim (· hsingle) (· hdouble)
  · intro hnot
    exact ⟨Utf8.decode w, (Utf8.repair_of_isValid h).symm, Decidable.not_and_iff_or_not.mp hnot⟩

/-- A tree of valid texts, wherever it comes from, reads back from its written form exactly where no word or file
name holds both quotes, and none has white space for which it is not written in quotes. -/
theorem render_reads_back_iff {t : Tree} (ht : t.WellFormed) (hvalid : ∀ w ∈ t.texts, Utf8.isValid w = true) :
    ofLine t.render = .ok t ↔ (∀ w ∈ t.texts, ¬ HoldsQuotes w) ∧ ∀ w ∈ t.texts, ¬ HidesBlank w := by
  constructor
  · intro hok
    obtain ⟨-, hwritable⟩ := ofLine_ok hok
    have hsurvives := (ofLine_render_iff ht hwritable).mp hok
    exact ⟨fun w hw => (writable_iff (hvalid w hw)).mp (hwritable w hw),
      fun w hw => not_hidesBlank_iff.mpr (hsurvives w hw)⟩
  · rintro ⟨hquotes, hblank⟩
    have hwritable : ∀ w ∈ t.texts, Writable w := fun w hw => (writable_iff (hvalid w hw)).mpr (hquotes w hw)
    exact (ofLine_render_iff ht hwritable).mpr fun w hw => not_hidesBlank_iff.mp (hblank w hw)

instance (c : Command) : Decidable c.WellFormed := inferInstanceAs (Decidable (_ ∧ _))

instance (t : Tree) : Decidable t.WellFormed := inferInstanceAs (Decidable (_ ∧ _))

/-- With an empty word, a reserved character beside a no-break space and each quote in a word of its own, a
sequence reads back. The same tree with both quotes in one file name does not. -/
theorem render_reads_back_iff_mixed :
    let t (path : String) : Tree :=
      .sequence [[⟨[text "echo", [], text "it's", text "a;\u00a0b"], []⟩, ⟨[text "wc"], [⟨.append, text path⟩]⟩],
        [⟨[text "\""], []⟩]]
    ofLine (t "out file").render = .ok (t "out file") ∧ ofLine (t "'\"").render ≠ .ok (t "'\"") := by
  intro t
  constructor
  · exact (render_reads_back_iff (by decide +kernel) (by decide +kernel)).mpr (by decide +kernel)
  · intro hok
    exact absurd ((render_reads_back_iff (by decide +kernel) (by decide +kernel)).mp hok) (by decide +kernel)

end AuditShell.Tree
