import AuditShell.Tree.Parse
/-!
# The grammar of token lists

A derivation of the grammar is a `ProgramForm`: the tokens in their places, each of the kind that its
place asks for. The tokens of a derivation are read as its tree, whatever follows them
(`ofTokens_append`), and a token list starts with the tokens of one derivation at most
(`cancel_program`).
-/
namespace AuditShell.Grammar

open Token (Kind)

/-! ## Derivations -/

/-- A token of a kind. -/
abbrev Terminal (k : Kind) := { t : Token // t.kind = k }

@[simp] theorem kind_terminal {k : Kind} (t : Terminal k) : t.1.kind = k := t.2

/-- A derivation of `redirect`. -/
inductive RedirectForm where
  | input (operator : Terminal .input) (file : Terminal .word)
  | output (operator : Terminal .output) (file : Terminal .word)
  | append (operator : Terminal .append) (file : Terminal .word)
  | split (first second : Terminal .output) (file : Terminal .word)

/-- A derivation of `command`. -/
structure CommandForm where
  name : Terminal .word
  args : List (Terminal .word)
  redirects : List RedirectForm

/-- A derivation of `pipeline`: each further command with the `|` before it. -/
structure PipelineForm where
  first : CommandForm
  rest : List (Terminal .pipe × CommandForm)

/-- A derivation of `program`: each further pipeline with the `;` before it. -/
structure ProgramForm where
  first : PipelineForm
  rest : List (Terminal .separator × PipelineForm)
  finish : Terminal .finish

namespace RedirectForm

/-- The tokens of a derivation in order. -/
def tokens : RedirectForm → List Token
  | input operator file => [operator, file]
  | output operator file => [operator, file]
  | append operator file => [operator, file]
  | split first second file => [first, second, file]

/-- What a derivation means. -/
def value : RedirectForm → Redirect
  | input _ file => ⟨.input, file.1.word⟩
  | output _ file => ⟨.output, file.1.word⟩
  | append _ file => ⟨.append, file.1.word⟩
  | split _ _ file => ⟨.append, file.1.word⟩

end RedirectForm

namespace CommandForm

/-- The tokens of a derivation in order. -/
def tokens (c : CommandForm) : List Token :=
  c.name.1 :: (c.args.map (·.1) ++ c.redirects.flatMap RedirectForm.tokens)

/-- What a derivation means. -/
def value (c : CommandForm) : Command :=
  ⟨c.name.1.word :: c.args.map (·.1.word), c.redirects.map RedirectForm.value⟩

end CommandForm

namespace PipelineForm

/-- The tokens of a derivation in order. -/
def tokens (q : PipelineForm) : List Token := q.first.tokens ++ q.rest.flatMap fun x => x.1.1 :: x.2.tokens

/-- What a derivation means. -/
def value (q : PipelineForm) : Pipeline := q.first.value :: q.rest.map (·.2.value)

end PipelineForm

namespace ProgramForm

/-- The tokens of a derivation in order. -/
def tokens (d : ProgramForm) : List Token :=
  d.first.tokens ++ (d.rest.flatMap fun x => x.1.1 :: x.2.tokens) ++ [d.finish.1]

/-- The tree of a derivation: one pipeline stands for itself, two and more are a sequence. -/
def tree (d : ProgramForm) : Tree :=
  match d.rest with
  | [] => .pipeline d.first.value
  | rest => .sequence (d.first.value :: rest.map (·.2.value))

end ProgramForm

/-- The token list is a sentence of the grammar. -/
def Sentence (ts : List Token) : Prop := ∃ d : ProgramForm, d.tokens = ts

/-! ## A derivation is read as its tree -/

open AuditShell.Tree (ofTokensFrom readToken Place Progress)

/-- A place where a command may end. -/
def Ends (place : Place) : Prop := place = .words ∨ place = .redirects

theorem read_args (ws : List (Terminal .word)) (p : Progress) (rest : List Token) :
    ofTokensFrom .words p (ws.map (·.1) ++ rest) =
      ofTokensFrom .words { p with words := (ws.map (·.1.word)).reverse ++ p.words } rest := by
  induction ws generalizing p with
  | nil => rfl
  | cons w ws ih =>
    rw [List.map_cons, List.cons_append, ofTokensFrom]
    simp only [readToken, w.2, Progress.addWord, ih, List.map_cons, List.reverse_cons, List.append_assoc,
      List.singleton_append]

theorem read_redirect {place : Place} (h : Ends place) (p : Progress) (r : RedirectForm) (rest : List Token) :
    ofTokensFrom place p (r.tokens ++ rest) = ofTokensFrom .redirects (p.addRedirect r.value) rest := by
  rcases h with rfl | rfl <;> cases r <;>
    simp [RedirectForm.tokens, RedirectForm.value, ofTokensFrom, readToken, Tree.atRedirect, Tree.atFile]

theorem read_redirects (rs : List RedirectForm) {place : Place} (h : Ends place) (p : Progress) :
    ∃ place', Ends place' ∧ ∀ rest, ofTokensFrom place p (rs.flatMap RedirectForm.tokens ++ rest) =
      ofTokensFrom place' { p with redirects := (rs.map RedirectForm.value).reverse ++ p.redirects } rest := by
  induction rs generalizing place p with
  | nil => exact ⟨place, h, fun _ => rfl⟩
  | cons r rs ih =>
    obtain ⟨place', h', hread⟩ := ih (.inr rfl) (p.addRedirect r.value)
    refine ⟨place', h', fun rest => ?_⟩
    rw [List.flatMap_cons, List.append_assoc, read_redirect h, hread]
    simp [Progress.addRedirect]

/-- The tokens of a command leave the reader behind it. -/
theorem read_command (c : CommandForm) (ps : List Pipeline) (cs : List Command) :
    ∃ place, Ends place ∧ ∀ rest, ofTokensFrom .command ⟨ps, cs, [], []⟩ (c.tokens ++ rest) =
      ofTokensFrom place ⟨ps, cs, c.value.words.reverse, c.value.redirects.reverse⟩ rest := by
  obtain ⟨place, h, hread⟩ := read_redirects c.redirects (.inl rfl) ⟨ps, cs, c.value.words.reverse, []⟩
  refine ⟨place, h, fun rest => ?_⟩
  rw [CommandForm.tokens, List.cons_append, ofTokensFrom]
  simp only [readToken, c.name.2, Progress.addWord, List.append_assoc, read_args]
  have hwords : (c.args.map (·.1.word)).reverse ++ [c.name.1.word] = c.value.words.reverse := by
    simp [CommandForm.value]
  rw [hwords, hread]
  simp [CommandForm.value]

theorem readToken_end {place : Place} (h : Ends place) {t : Token}
    (ht : t.kind = .pipe ∨ t.kind = .separator ∨ t.kind = .finish) (p : Progress) :
    readToken place p t = Tree.afterCommand p t := by
  rcases h with rfl | rfl <;> rcases ht with ht | ht | ht <;> simp [readToken, Tree.atRedirect, ht]

/-- The rest of a pipeline is read after its first commands. -/
theorem read_commands (rest : List (Terminal .pipe × CommandForm)) (c : CommandForm) (ps : List Pipeline)
    (cs : List Command) :
    ∃ place p, Ends place ∧ p.endPipeline = ⟨(cs.reverse ++ c.value :: rest.map (·.2.value)) :: ps, [], [], []⟩ ∧
      ∀ ts, ofTokensFrom .command ⟨ps, cs, [], []⟩ (c.tokens ++ (rest.flatMap fun x => x.1.1 :: x.2.tokens) ++ ts) =
        ofTokensFrom place p ts := by
  induction rest generalizing c cs with
  | nil =>
    obtain ⟨place, h, hread⟩ := read_command c ps cs
    refine ⟨place, ⟨ps, cs, c.value.words.reverse, c.value.redirects.reverse⟩, h, ?_, fun ts => ?_⟩
    · simp [Progress.endPipeline, Progress.endCommand]
    · rw [List.flatMap_nil, List.append_nil, hread]
  | cons x rest ih =>
    obtain ⟨place, h, hread⟩ := read_command c ps cs
    obtain ⟨place', p, h', hend, hrest⟩ := ih x.2 (c.value :: cs)
    refine ⟨place', p, h', ?_, fun ts => ?_⟩
    · rw [hend]
      simp
    · rw [List.append_assoc, hread, List.flatMap_cons, List.cons_append, List.cons_append, ofTokensFrom,
        readToken_end h (.inl x.1.2)]
      simp only [Tree.afterCommand, x.1.2, Progress.endCommand, List.reverse_reverse]
      exact hrest ts

theorem read_pipeline (q : PipelineForm) (ps : List Pipeline) :
    ∃ place p, Ends place ∧ p.endPipeline = ⟨q.value :: ps, [], [], []⟩ ∧
      ∀ ts, ofTokensFrom .command ⟨ps, [], [], []⟩ (q.tokens ++ ts) = ofTokensFrom place p ts :=
  read_commands q.rest q.first ps []

theorem read_pipelines (rest : List (Terminal .separator × PipelineForm)) (q : PipelineForm) (ps : List Pipeline)
    (f : Terminal .finish) (extra : List Token) :
    ofTokensFrom .command ⟨ps, [], [], []⟩
        (q.tokens ++ (rest.flatMap fun x => x.1.1 :: x.2.tokens) ++ f.1 :: extra) =
      .ok (Tree.ofPipelines (ps.reverse ++ q.value :: rest.map (·.2.value))) := by
  induction rest generalizing q ps with
  | nil =>
    obtain ⟨place, p, h, hend, hread⟩ := read_pipeline q ps
    rw [List.flatMap_nil, List.append_nil, hread, ofTokensFrom, readToken_end h (.inr (.inr f.2))]
    simp [Tree.afterCommand, Progress.tree, hend]
  | cons x rest ih =>
    obtain ⟨place, p, h, hend, hread⟩ := read_pipeline q ps
    rw [List.append_assoc, hread, List.flatMap_cons, List.cons_append, List.cons_append, ofTokensFrom,
      readToken_end h (.inr (.inl x.1.2))]
    simp only [Tree.afterCommand, x.1.2, hend]
    rw [ih]
    simp

theorem tree_eq (d : ProgramForm) : d.tree = Tree.ofPipelines (d.first.value :: d.rest.map (·.2.value)) := by
  obtain ⟨first, rest, finish⟩ := d
  cases rest <;> rfl

/-- A token list that starts with a sentence is read as the tree of the sentence. -/
theorem ofTokens_append (d : ProgramForm) (extra : List Token) :
    Tree.ofTokens (d.tokens ++ extra) = .ok d.tree := by
  have h := read_pipelines d.rest d.first [] d.finish extra
  rw [Tree.ofTokens, ProgramForm.tokens, List.append_assoc _ [d.finish.1], List.singleton_append, tree_eq]
  exact h

/-! ## Only one derivation -/

/-- The token list does not go on with one of these kinds. -/
def Stops (kinds : List Kind) (ts : List Token) : Prop := ∀ t, ts.head? = some t → t.kind ∉ kinds

theorem Stops.mono {kinds kinds' : List Kind} {ts : List Token} (h : Stops kinds ts) (hk : kinds' ⊆ kinds) :
    Stops kinds' ts := fun t ht hm => h t ht (hk hm)

theorem stops_cons {kinds : List Kind} {t : Token} (h : t.kind ∉ kinds) (ts : List Token) : Stops kinds (t :: ts) := by
  rintro _ ⟨⟩
  exact h

section Items

variable {α : Type} {tokens : α → List Token} {start : List Kind}
  (hstart : ∀ x, ∃ t ts, tokens x = t :: ts ∧ t.kind ∈ start)

include hstart

/-- Items that start with other kinds do not go on with these. -/
theorem stops_items {kinds : List Kind} (hkinds : ∀ k ∈ start, k ∉ kinds) (xs : List α) {ts : List Token}
    (h : Stops kinds ts) : Stops kinds (xs.flatMap tokens ++ ts) := by
  cases xs with
  | nil => exact h
  | cons x xs =>
    obtain ⟨t, us, hx, hk⟩ := hstart x
    rw [List.flatMap_cons, hx]
    exact stops_cons (hkinds t.kind hk) _

theorem items_ne {x : α} {xs : List α} {as bs : List Token} (h : Stops start as) :
    as ≠ (x :: xs).flatMap tokens ++ bs := by
  rintro rfl
  obtain ⟨t, us, hx, hk⟩ := hstart x
  refine h t ?_ hk
  rw [List.flatMap_cons, hx]
  rfl

/-- A list of items is known by its tokens, if each item is by its own, where neither another item nor
one of the following kinds comes next. -/
theorem cancel_items (follow : List Kind) (hfollow : ∀ k ∈ start, k ∉ follow)
    (hitem : ∀ x y as bs, Stops follow as → Stops follow bs → tokens x ++ as = tokens y ++ bs → x = y ∧ as = bs)
    (xs ys : List α) {as bs : List Token} (ha : Stops (start ++ follow) as) (hb : Stops (start ++ follow) bs)
    (h : xs.flatMap tokens ++ as = ys.flatMap tokens ++ bs) : xs = ys ∧ as = bs := by
  have hleft : start ⊆ start ++ follow := List.subset_append_left _ _
  have hright : follow ⊆ start ++ follow := List.subset_append_right _ _
  induction xs generalizing ys with
  | nil =>
    cases ys with
    | nil => exact ⟨rfl, h⟩
    | cons y ys => exact absurd h (items_ne hstart (ha.mono hleft))
  | cons x xs ih =>
    cases ys with
    | nil => exact absurd h.symm (items_ne hstart (hb.mono hleft))
    | cons y ys =>
      simp only [List.flatMap_cons, List.append_assoc] at h
      obtain ⟨rfl, hrest⟩ := hitem x y _ _ (stops_items hstart hfollow xs (ha.mono hright))
        (stops_items hstart hfollow ys (hb.mono hright)) h
      obtain ⟨rfl, hend⟩ := ih ys hrest
      exact ⟨rfl, hend⟩

end Items

theorem terminal_ne {k k' : Kind} (h : k ≠ k') (a : Terminal k) (b : Terminal k') : a.1 ≠ b.1 :=
  fun he => h (a.2.symm.trans ((congrArg Token.kind he).trans b.2))

theorem cancel_redirect (r r' : RedirectForm) (as bs : List Token) (h : r.tokens ++ as = r'.tokens ++ bs) :
    r = r' ∧ as = bs := by
  cases r <;> cases r' <;> simp only [RedirectForm.tokens, List.cons_append, List.nil_append, List.cons.injEq] at h
  -- two forms that differ have tokens of different kinds in one of the first two places
  all_goals first
    | exact absurd h.1 (terminal_ne (by decide) _ _)
    | exact absurd h.2.1 (terminal_ne (by decide) _ _)
    | exact ⟨by rw [Subtype.ext h.1, Subtype.ext h.2.1], h.2.2⟩
    | exact ⟨by rw [Subtype.ext h.1, Subtype.ext h.2.1, Subtype.ext h.2.2.1], h.2.2.2⟩

theorem redirect_start (r : RedirectForm) :
    ∃ t ts, r.tokens = t :: ts ∧ t.kind ∈ [Kind.input, .output, .append] := by
  cases r <;> exact ⟨_, _, rfl, by simp⟩

theorem terminal_start {α : Type} {k : Kind} (terminal : α → Terminal k) (rest : α → List Token) (x : α) :
    ∃ t ts, (terminal x).1 :: rest x = t :: ts ∧ t.kind ∈ [k] :=
  ⟨_, _, rfl, List.mem_singleton.mpr (terminal x).2⟩

theorem cancel_command (c c' : CommandForm) (as bs : List Token) (ha : Stops [.word, .input, .output, .append] as)
    (hb : Stops [.word, .input, .output, .append] bs) (h : c.tokens ++ as = c'.tokens ++ bs) : c = c' ∧ as = bs := by
  obtain ⟨name, args, rs⟩ := c
  obtain ⟨name', args', rs'⟩ := c'
  simp only [CommandForm.tokens, List.cons_append, List.cons.injEq, List.append_assoc, List.map_eq_flatMap] at h
  obtain ⟨hname, hrest⟩ := h
  have hword : ∀ (rs : List RedirectForm) {cs : List Token}, Stops [.word, .input, .output, .append] cs →
      Stops ([.word] ++ []) (rs.flatMap RedirectForm.tokens ++ cs) :=
    fun rs _ hc => stops_items redirect_start (by decide) rs (hc.mono (by decide))
  obtain ⟨rfl, hredirects⟩ := cancel_items (terminal_start id fun _ => []) [] (by simp)
    (fun x y as bs _ _ he => by
      obtain ⟨hx, he⟩ := List.cons.inj he
      exact ⟨Subtype.ext hx, he⟩) args args' (hword rs ha) (hword rs' hb) hrest
  obtain ⟨rfl, hend⟩ := cancel_items redirect_start [] (by simp) (fun x y as bs _ _ he => cancel_redirect x y as bs he)
    rs rs' (ha.mono (by decide)) (hb.mono (by decide)) hredirects
  exact ⟨by rw [Subtype.ext hname], hend⟩

theorem cancel_separated {α : Type} {k : Kind} {follow : List Kind} {tokens : α → List Token}
    (h : ∀ x y as bs, Stops follow as → Stops follow bs → tokens x ++ as = tokens y ++ bs → x = y ∧ as = bs)
    (x y : Terminal k × α) (as bs : List Token) (ha : Stops follow as) (hb : Stops follow bs)
    (he : x.1.1 :: tokens x.2 ++ as = y.1.1 :: tokens y.2 ++ bs) : x = y ∧ as = bs := by
  obtain ⟨hterminal, hitem⟩ := List.cons.inj he
  obtain ⟨hx, hrest⟩ := h x.2 y.2 as bs ha hb hitem
  exact ⟨Prod.ext (Subtype.ext hterminal) hx, hrest⟩

theorem cancel_pipeline (q q' : PipelineForm) (as bs : List Token)
    (ha : Stops [.pipe, .word, .input, .output, .append] as) (hb : Stops [.pipe, .word, .input, .output, .append] bs)
    (h : q.tokens ++ as = q'.tokens ++ bs) : q = q' ∧ as = bs := by
  obtain ⟨c, rest⟩ := q
  obtain ⟨c', rest'⟩ := q'
  simp only [PipelineForm.tokens, List.append_assoc] at h
  have hcommand : ∀ (xs : List (Terminal .pipe × CommandForm)) {cs : List Token},
      Stops [.pipe, .word, .input, .output, .append] cs →
      Stops [.word, .input, .output, .append] ((xs.flatMap fun x => x.1.1 :: x.2.tokens) ++ cs) :=
    fun xs _ hc => stops_items (terminal_start Prod.fst fun x => x.2.tokens) (by decide) xs (hc.mono (by decide))
  obtain ⟨rfl, hrest⟩ := cancel_command c c' _ _ (hcommand rest ha) (hcommand rest' hb) h
  obtain ⟨rfl, hend⟩ := cancel_items (terminal_start Prod.fst fun x => x.2.tokens) _ (by decide)
    (cancel_separated cancel_command) rest rest' ha hb hrest
  exact ⟨rfl, hend⟩

/-- A token list starts with one sentence at most, and the sentence has one derivation. -/
theorem cancel_program (d d' : ProgramForm) (as bs : List Token) (h : d.tokens ++ as = d'.tokens ++ bs) : d = d' := by
  obtain ⟨q, rest, f⟩ := d
  obtain ⟨q', rest', f'⟩ := d'
  simp only [ProgramForm.tokens, List.append_assoc, List.singleton_append] at h
  have hfinish : ∀ (f : Terminal .finish) (cs : List Token),
      Stops [.separator, .pipe, .word, .input, .output, .append] (f.1 :: cs) :=
    fun f cs => stops_cons (by rw [f.2]; decide) cs
  have hpipeline : ∀ (xs : List (Terminal .separator × PipelineForm)) {cs : List Token},
      Stops [.separator, .pipe, .word, .input, .output, .append] cs →
      Stops [.pipe, .word, .input, .output, .append] ((xs.flatMap fun x => x.1.1 :: x.2.tokens) ++ cs) :=
    fun xs _ hc => stops_items (terminal_start Prod.fst fun x => x.2.tokens) (by decide) xs (hc.mono (by decide))
  obtain ⟨rfl, hrest⟩ := cancel_pipeline q q' _ _ (hpipeline rest (hfinish f as)) (hpipeline rest' (hfinish f' bs)) h
  obtain ⟨rfl, hend⟩ := cancel_items (terminal_start Prod.fst fun x => x.2.tokens) _ (by decide)
    (cancel_separated cancel_pipeline) rest rest' (hfinish f as) (hfinish f' bs) hrest
  rw [Subtype.ext (List.cons.inj hend).1]

end AuditShell.Grammar
